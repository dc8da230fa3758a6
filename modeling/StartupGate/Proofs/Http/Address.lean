import StartupGate.Client.Handle
import StartupGate.Proofs.Check.Requests
/-!
# Addresses below a base

Pings, the handles of clients and the clients of a registry all put a route below a base address,
and each of them drops the slashes at the end of the base by itself. Every address is a base that
does not end in a slash, followed by slashes (`Text.exists_eq_append_slashes`), and more slashes
lead to the same base (`Text.dropSlashes_append_slashes`). So all three go to the route below this
one base, however many slashes there are: `trailing_slashes_never_matter`.
-/

namespace StartupGate

/-! ## Slashes at the end -/

namespace Text

/-- A text of slashes alone. -/
def slashes (n : Nat) : String := String.ofList (List.replicate n '/')

theorem dropSlashes_append_slashes (s : String) (n : Nat) :
    dropSlashes (s ++ slashes n) = dropSlashes s := by
  have hslashes : ∀ c ∈ List.replicate n '/', (c == '/') = true := by
    intro c hc
    rw [List.eq_of_mem_replicate hc]
    rfl
  rw [dropSlashes, dropSlashes, String.toList_append, slashes, String.toList_ofList,
    trimEnd_append_of_all _ hslashes]

theorem exists_eq_append_slashes (s : String) : ∃ k, s = dropSlashes s ++ slashes k := by
  obtain ⟨dropped, hdropped, hs⟩ := exists_dropSlashes_append s
  refine ⟨dropped.length, String.toList_injective ?_⟩
  rw [String.toList_append, slashes, String.toList_ofList, ← List.eq_replicate_of_mem hdropped]
  exact hs

end Text

/-! ## Clients of a registry -/

namespace Consul

variable (b : String) (token : Option String) (timeout : Float)

theorem of_append_slashes (n : Nat) :
    of (b ++ Text.slashes n) token timeout = of b token timeout := by
  simp only [of, Text.dropSlashes_append_slashes]

/-- All requests of a client go to the paths of a registry below a base address: the question for
the leader to one of them, and the question for a service to the first one or to both of two. -/
structure AsksBelow (c : Consul) (base : String) : Prop where
  leader : ∀ net (w : Worker), w.Recorded (c.isAlive net w).2
    [.get (base ++ "/v1/status/leader") (some c.timeout) (some c.headers)]
  service : ∀ net service (w : Worker), ∃ sent, w.Recorded (c.isAvailable net service w).2 sent ∧
    sent ≠ [] ∧ sent <+:
      [Call.get (base ++ "/v1/catalog/services") (some c.timeout) (some c.headers),
       Call.get (base ++ ("/v1/health/checks/" ++ service)) (some c.timeout) (some c.headers)]

theorem asksBelow_base (c : Consul) : c.AsksBelow c.base where
  leader := c.isAlive_recorded
  service := by
    intro net service w
    rcases c.isAvailable_recorded net service w with hcatalog | hboth
    · exact ⟨_, hcatalog, List.cons_ne_nil _ _, [c.call (healthPath service)], rfl⟩
    · exact ⟨_, hboth, List.cons_ne_nil _ _, List.prefix_refl _⟩

end Consul

/-! ## The main statement -/

/-- **Slashes at the end of an address never matter.** Every address has a base that does not end in
a slash and from which it differs by slashes alone. A ping, a handle of any kind and a client of a
registry go to the same places however many slashes are put behind the address, and these are the
routes below the base. -/
theorem trailing_slashes_never_matter (b : String) :
    (∀ n,
      Http.pingUrl (b ++ Text.slashes n) = Http.pingUrl b ∧
      (∀ kind, Handle.endpoint ⟨kind, b ++ Text.slashes n⟩ = Handle.endpoint ⟨kind, b⟩) ∧
      ∀ token timeout net,
        (Consul.of (b ++ Text.slashes n) token timeout).client net
          = (Consul.of b token timeout).client net) ∧
    ∃ base k, b = base ++ Text.slashes k ∧ base.toList.getLast? ≠ some '/' ∧
      Http.pingUrl b = base ++ "/api/v2/ping" ∧
      (∀ kind, Handle.endpoint ⟨kind, b⟩ = base ++ ("/api/v2" ++ kind.route)) ∧
      ∀ token timeout, (Consul.of b token timeout).AsksBelow base := by
  refine ⟨fun n => ⟨?ping, fun kind => ?handle, fun token timeout net => ?client⟩, ?below⟩
  case ping => rw [Http.pingUrl, Http.pingUrl, Text.dropSlashes_append_slashes]
  case handle => simp only [Handle.endpoint, Text.dropSlashes_append_slashes]
  case client => rw [Consul.of_append_slashes]
  case below =>
    obtain ⟨k, hk⟩ := Text.exists_eq_append_slashes b
    refine ⟨Text.dropSlashes b, k, hk, Text.getLast?_dropSlashes b, rfl, fun kind => ?_, ?_⟩
    · exact String.append_assoc ..
    · intro token timeout
      exact Consul.asksBelow_base (.of b token timeout)

/-- An address of slashes alone has an empty base. -/
example : Http.pingUrl "//" = "/api/v2/ping" := by decide

end StartupGate
