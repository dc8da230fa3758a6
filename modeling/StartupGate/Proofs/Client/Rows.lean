import Mathlib.Data.List.Lex
import Mathlib.Data.List.Pairwise
import StartupGate.CommandLine.Run
import StartupGate.Proofs.CommandLine.Table
import StartupGate.Proofs.Gate.Publication
/-!
# The rows of the published clients

The clients of a directory are shown in alphabetical order. A list that holds the names in strictly
increasing order is that order (`Directory.sortTexts_eq_of_perm`), and so the rows of the clients of
a configuration can be written down (`Run.clientRows_of_publish`). The names hold no markup, and what
may keep their table from being shown is the markup of an endpoint alone; the table has a row for
each client and no other (`Run.exists_table_publishedRows`).
-/

namespace StartupGate

/-! ## Alphabetical order -/

namespace Directory

/-- A text comes before another, by code points. -/
def Before (a b : String) : Prop := a.toList.map Text.codeOfChar < b.toList.map Text.codeOfChar

instance : DecidableRel Before := fun _ _ => inferInstanceAs (Decidable (_ < _))

theorem Before.asymm {a b : String} (h : Before a b) : ¬ Before b a := lt_asymm h

theorem not_before_trans {a b c : String} (hab : ¬ Before b a) (hbc : ¬ Before c b) :
    ¬ Before c a := by
  rw [Before, not_lt] at *
  exact hab.trans hbc

theorem not_before_total (a b : String) : ¬ Before b a ∨ ¬ Before a b := by
  rw [Before, Before, not_lt, not_lt]
  exact le_total _ _

theorem pairwise_sortTexts (xs : List String) :
    (sortTexts xs).Pairwise fun a b => ¬ Before b a := by
  have hsorted := @List.pairwise_mergeSort String (fun a b => !decide (Before b a)) ?trans ?total xs
  · exact hsorted.imp fun h => by simpa using h
  case trans =>
    intro a b c hab hbc
    simp only [Bool.not_eq_true', decide_eq_false_iff_not] at hab hbc ⊢
    exact not_before_trans hab hbc
  case total =>
    intro a b
    simp only [Bool.or_eq_true, Bool.not_eq_true', decide_eq_false_iff_not]
    exact not_before_total a b

/-- Sorting gives the one arrangement that increases strictly, if there is one. -/
theorem sortTexts_eq_of_perm {xs ys : List String} (hperm : ys.Perm xs)
    (hsorted : ys.Pairwise Before) : sortTexts xs = ys := by
  have hsame : (sortTexts xs).Perm ys := (List.mergeSort_perm xs _).trans hperm.symm
  have hweak : ys.Pairwise fun a b => ¬ Before b a := hsorted.imp Before.asymm
  refine hsame.eq_of_pairwise ?_ (pairwise_sortTexts xs) hweak
  -- Of two names in a list that increases strictly one comes before the other.
  intro a b ha hb hab hba
  by_contra hne
  have hsymm : Std.Symm fun a b => Before a b ∨ Before b a := ⟨fun _ _ => Or.symm⟩
  have hcompared : ys.Pairwise fun a b => Before a b ∨ Before b a := hsorted.imp .inl
  rcases hcompared.forall (hsame.mem_iff.mp ha) hb hne with h | h
  · exact hba h
  · exact hab h

end Directory

/-! ## The published clients -/

namespace Run

/-- The names and the endpoints of the clients of a configuration, in alphabetical order. -/
def publishedRows (c : Config) : List (String × String) :=
  let metadata := (c.endpoint metadataService).address
  let data := (c.endpoint dataService).address
  [("CoredataEventClient", Handle.endpoint ⟨.event, data⟩),
   ("MetadataDeviceClient", Handle.endpoint ⟨.device, metadata⟩),
   ("MetadataDeviceProfileClient", Handle.endpoint ⟨.deviceProfile, metadata⟩),
   ("MetadataDeviceServiceClient", Handle.endpoint ⟨.deviceService, metadata⟩),
   ("MetadataProvisionWatcherClient", Handle.endpoint ⟨.provisionWatcher, metadata⟩)]

theorem pairwise_publishedRows (c : Config) :
    ((publishedRows c).map Prod.fst).Pairwise Directory.Before := by
  -- The names do not depend on the configuration.
  show ["CoredataEventClient", "MetadataDeviceClient", "MetadataDeviceProfileClient",
    "MetadataDeviceServiceClient", "MetadataProvisionWatcherClient"].Pairwise Directory.Before
  decide

/-- What an empty directory shows after the clients of a configuration were published. -/
theorem clientRows_of_publish {c : Config} {published : Directory}
    (h : Directory.publish {} c = .ok published) : clientRows published = publishedRows c := by
  obtain ⟨-, rfl⟩ := Directory.publish_eq_ok_iff.mp h
  have hnames : Directory.sortTexts publishedNames = (publishedRows c).map Prod.fst := by
    refine Directory.sortTexts_eq_of_perm ?_ (pairwise_publishedRows c)
    show ["CoredataEventClient", "MetadataDeviceClient", "MetadataDeviceProfileClient",
      "MetadataDeviceServiceClient", "MetadataProvisionWatcherClient"].Perm publishedNames
    decide
  show (Directory.sortTexts publishedNames).map _ = _
  rw [hnames]
  rfl

/-! ## Their table -/

/-- The markup of a text is read without an error, to a text that can be written. -/
def Displays (text : String) : Prop :=
  ∃ shown, Markup.plain text = .ok shown ∧ Text.isWritable shown = true

/-- A text holds no markup and can be written as it is. -/
def DisplaysAsIs (text : String) : Prop :=
  Markup.plain text = .ok text ∧ Text.isWritable text = true

/-- The cells of a row show a client: its name as it is, and its endpoint without the markup. -/
def ShowsClient (client : String × String) (row : List String) : Prop :=
  ∃ endpoint, Markup.plain client.2 = .ok endpoint ∧ row = [client.1, endpoint]

/-- A table shows clients: it has a row for each of them, in their order, and no other. -/
structure ShowsClients (clients : List (String × String)) (table : Table) : Prop where
  title : table.title = "Published clients"
  headings : table.headings = ["Name", "Endpoint"]
  rows : List.Forall₂ ShowsClient clients table.rows

theorem exists_cells {clients : List (String × String)}
    (h : ∀ client ∈ clients, DisplaysAsIs client.1 ∧ Displays client.2) :
    ∃ rows, clients.mapM cells = .ok rows ∧ List.Forall₂ ShowsClient clients rows ∧
      ∀ row ∈ rows, ∀ cell ∈ row, Text.isWritable cell = true := by
  induction clients with
  | nil => exact ⟨[], rfl, .nil, by simp⟩
  | cons client clients ih =>
    obtain ⟨⟨⟨hname, hname'⟩, endpoint, hendpoint, hendpoint'⟩, hlater⟩ :=
      List.forall_mem_cons.mp h
    obtain ⟨rows, hrows, hshows, hwritable⟩ := ih hlater
    refine ⟨[client.1, endpoint] :: rows, ?_, .cons ⟨endpoint, hendpoint, rfl⟩ hshows, ?_⟩
    · -- The markup of this row is read first, and then that of the later rows.
      simp only [List.mapM_cons, hrows, cells, hname, hendpoint]
      rfl
    · exact List.forall_mem_cons.mpr ⟨by simp [hname', hendpoint'], hwritable⟩

theorem exists_tableOf {clients : List (String × String)}
    (h : ∀ client ∈ clients, DisplaysAsIs client.1 ∧ Displays client.2) :
    ∃ table, tableOf clients = .ok table ∧ ShowsClients clients table ∧
      Text.isWritable table.render = true := by
  obtain ⟨rows, hrows, hshows, hwritable⟩ := exists_cells h
  have htitle : Text.isWritable "Published clients" = true := by decide
  have hheadings : ∀ cell ∈ ["Name", "Endpoint"], Text.isWritable cell = true := by decide
  refine ⟨_, by rw [tableOf, hrows]; rfl, ⟨rfl, rfl, hshows⟩, ?_⟩
  exact Table.isWritable_render htitle hheadings hwritable

/-- The names hold no markup. -/
theorem displaysAsIs_name (c : Config) : ∀ client ∈ publishedRows c, DisplaysAsIs client.1 := by
  simp only [publishedRows, List.forall_mem_cons]
  exact ⟨⟨rfl, rfl⟩, ⟨rfl, rfl⟩, ⟨rfl, rfl⟩, ⟨rfl, rfl⟩, ⟨rfl, rfl⟩, by simp⟩

theorem exists_table_publishedRows {c : Config}
    (h : ∀ client ∈ publishedRows c, Displays client.2) :
    ∃ table, tableOf (publishedRows c) = .ok table ∧ ShowsClients (publishedRows c) table ∧
      Text.isWritable table.render = true :=
  exists_tableOf fun client hclient => ⟨displaysAsIs_name c client hclient, h client hclient⟩

end Run

end StartupGate
