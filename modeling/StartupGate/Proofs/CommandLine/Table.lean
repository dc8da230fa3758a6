import StartupGate.CommandLine.Table
import StartupGate.Text.Surrogate
/-!
# Tables can be written

A table is drawn from the characters of its cells, from blanks and box characters, and from an
ellipsis where a word is cut off. None of these is half of a surrogate pair unless a cell holds one,
and so a table of texts that can be written can be written itself (`Table.isWritable_render`).
-/

namespace StartupGate

namespace Text

/-- Characters that can be written as UTF-8. -/
def Writable (cs : List Char) : Prop := ∀ c ∈ cs, isStandIn c = false

theorem isWritable_iff {s : String} : isWritable s = true ↔ Writable s.toList := by
  simp [isWritable, Writable]

/-! ## Pieces of characters -/

section Pieces

variable {xs ys : List Char}

theorem Writable.of_subset (hxs : Writable xs) (h : ys ⊆ xs) : Writable ys :=
  fun c hc => hxs c (h hc)

theorem Writable.append (hxs : Writable xs) (hys : Writable ys) : Writable (xs ++ ys) :=
  fun c hc => (List.mem_append.mp hc).elim (hxs c) (hys c)

theorem Writable.cons {c : Char} (hc : isStandIn c = false) (hxs : Writable xs) :
    Writable (c :: xs) :=
  List.forall_mem_cons.mpr ⟨hc, hxs⟩

theorem writable_replicate {c : Char} (hc : isStandIn c = false) (n : Nat) :
    Writable (List.replicate n c) := by
  intro d hd
  rw [List.eq_of_mem_replicate hd]
  exact hc

theorem Writable.reverse (hxs : Writable xs) : Writable xs.reverse :=
  hxs.of_subset fun _ => List.mem_reverse.mp

theorem Writable.take (hxs : Writable xs) (n : Nat) : Writable (xs.take n) :=
  hxs.of_subset (List.take_subset n xs)

theorem Writable.drop (hxs : Writable xs) (n : Nat) : Writable (xs.drop n) :=
  hxs.of_subset (List.drop_subset n xs)

theorem Writable.takeWhile (hxs : Writable xs) (p : Char → Bool) : Writable (xs.takeWhile p) :=
  hxs.of_subset (List.takeWhile_sublist p).subset

end Pieces

/-! ## Wrapping -/

theorem Writable.expandTabs {cs : List Char} (hcs : Writable cs) {part : List Char}
    (hpart : Writable part) (used : Nat) : Writable (expandTabs used part cs) := by
  induction cs generalizing used part with
  | nil => exact hpart.reverse
  | cons c r ih =>
    obtain ⟨hc, hr⟩ := List.forall_mem_cons.mp hcs
    rw [Text.expandTabs]
    split
    · -- A tab becomes blanks, and the part before it is done.
      refine (hpart.reverse.append (.cons (by decide) ?_)).append (ih hr ?_ _)
      · exact writable_replicate (by decide) _
      · exact fun _ h => absurd h List.not_mem_nil
    · exact ih hr (.cons hc hpart) _

theorem Writable.splitWord {cs : List Char} (hcs : Writable cs) :
    Writable (splitWord cs).1 ∧ Writable (splitWord cs).2 := by
  have hrest := hcs.drop (cs.takeWhile fun c => !isBlank c).length
  exact ⟨(hcs.takeWhile _).append (hrest.takeWhile _), hrest.drop _⟩

theorem Writable.wordsOf {cs : List Char} (hcs : Writable cs) (fuel : Nat) :
    ∀ word ∈ wordsOf fuel cs, Writable word := by
  induction fuel generalizing cs with
  | zero => simp [Text.wordsOf]
  | succ fuel ih =>
    -- A word is split off and the words of the rest follow; the fuel goes down with each.
    cases cs with
    | nil => simp [Text.wordsOf]
    | cons c r =>
      obtain ⟨hword, hrest⟩ := hcs.splitWord
      exact List.forall_mem_cons.mpr ⟨hword, ih hrest⟩

theorem Writable.words {cs : List Char} (hcs : Writable cs) : ∀ word ∈ words cs, Writable word := by
  have hblanks := hcs.takeWhile isBlank
  have hfound := (hcs.drop (cs.takeWhile isBlank).length).wordsOf cs.length
  rw [Text.words]
  split
  · simp
  · rename_i first rest hwords
    rw [hwords] at hfound
    obtain ⟨hfirst, hrest⟩ := List.forall_mem_cons.mp hfound
    exact List.forall_mem_cons.mpr ⟨hblanks.append hfirst, hrest⟩

theorem writable_fill (width : Nat) {line : List Char} (hline : Writable line) (used : Nat)
    {words : List (List Char)} (hwords : ∀ word ∈ words, Writable word) :
    ∀ l ∈ fill width line used words, Writable l := by
  induction words generalizing line used with
  | nil => simpa [fill] using hline
  | cons word rest ih =>
    obtain ⟨hword, hrest⟩ := List.forall_mem_cons.mp hwords
    rw [fill]
    -- The word goes on the line or begins the next one.
    split
    · exact ih (hline.append hword) _ hrest
    · exact List.forall_mem_cons.mpr ⟨hline, ih hword _ hrest⟩

theorem Writable.takeColumns {cs : List Char} (hcs : Writable cs) (free : Nat) :
    Writable (takeColumns free cs) := by
  induction cs generalizing free with
  | nil => simp [Text.takeColumns, Writable]
  | cons c r ih =>
    obtain ⟨hc, hr⟩ := List.forall_mem_cons.mp hcs
    rw [Text.takeColumns]
    split
    · exact .cons hc (ih hr _)
    · split
      · simp [Writable]
      · -- Half of a wide character is left out, and a blank stands for it.
        exact writable_replicate (by decide) 1

theorem Writable.fit {line : List Char} (hline : Writable line) (width : Nat) :
    Writable (fit width line) := by
  rw [Text.fit]
  split
  · exact hline.append (writable_replicate (by decide) _)
  · exact (hline.takeColumns _).append (writable_replicate (by decide) 1)

theorem Writable.wrap {line : List Char} (hline : Writable line) (width : Nat) :
    ∀ l ∈ wrap width line, Writable l := by
  have hnil : Writable [] := by simp [Writable]
  have hexpanded := hline.expandTabs hnil 0
  simp only [Text.wrap, List.forall_mem_map]
  intro l hl
  refine Writable.fit (Writable.take ?_ _) width
  split at hl
  · rw [List.mem_singleton.mp hl]
    exact hexpanded
  · exact writable_fill width hnil 0 hexpanded.words l hl

theorem Writable.splitFeeds {cs : List Char} (hcs : Writable cs) :
    ∀ line ∈ splitFeeds cs, Writable line := by
  induction cs with
  | nil => simp [Text.splitFeeds, Writable]
  | cons c r ih =>
    obtain ⟨hc, hr⟩ := List.forall_mem_cons.mp hcs
    rw [Text.splitFeeds]
    split
    · exact List.forall_mem_cons.mpr ⟨by simp [Writable], ih hr⟩
    · have hlines := ih hr
      split
      · exact List.forall_mem_singleton.mpr (.cons hc (by simp [Writable]))
      · rename_i hsplit
        rw [hsplit] at hlines
        obtain ⟨hfirst, hlater⟩ := List.forall_mem_cons.mp hlines
        exact List.forall_mem_cons.mpr ⟨.cons hc hfirst, hlater⟩

end Text

/-! ## Drawing -/

namespace Table

open Text

theorem isWritable_append {s t : String} (hs : isWritable s = true) (ht : isWritable t = true) :
    isWritable (s ++ t) = true := by
  rw [isWritable_iff, String.toList_append]
  exact (isWritable_iff.mp hs).append (isWritable_iff.mp ht)

theorem isWritable_join {l : List String} (h : ∀ s ∈ l, isWritable s = true) :
    isWritable (String.join l) = true := by
  induction l with
  | nil => decide
  | cons s l ih =>
    obtain ⟨hs, hl⟩ := List.forall_mem_cons.mp h
    rw [String.join_cons]
    exact isWritable_append hs (ih hl)

theorem isWritable_intercalate {s : String} (hs : isWritable s = true) {l : List String}
    (h : ∀ t ∈ l, isWritable t = true) : isWritable (s.intercalate l) = true := by
  induction l with
  | nil =>
    rw [String.intercalate_nil]
    decide
  | cons t l ih =>
    obtain ⟨ht, hl⟩ := List.forall_mem_cons.mp h
    cases l with
    | nil => simpa using ht
    | cons u l =>
      rw [String.intercalate_cons_cons]
      exact isWritable_append (isWritable_append ht hs) (ih hl)

theorem isWritable_repeated {s : String} (hs : isWritable s = true) (n : Nat) :
    isWritable (repeated n s) = true :=
  isWritable_join fun t ht => by rwa [List.eq_of_mem_replicate ht]

theorem isWritable_cellLines {cell : String} (hcell : isWritable cell = true) (width : Nat) :
    ∀ line ∈ cellLines width cell, isWritable line = true := by
  simp only [cellLines, List.forall_mem_map, List.mem_flatMap, forall_exists_index, and_imp]
  intro line part hpart hline
  rw [isWritable_iff, String.toList_ofList]
  exact ((isWritable_iff.mp hcell).splitFeeds part hpart).wrap width line hline

theorem isWritable_rule {ws : List Nat} {left along between right : String}
    (hleft : isWritable left = true) (halong : isWritable along = true)
    (hbetween : isWritable between = true) (hright : isWritable right = true) :
    isWritable (rule ws left along between right) = true := by
  refine isWritable_append (isWritable_append hleft (isWritable_intercalate hbetween ?_)) hright
  simp only [List.forall_mem_map]
  exact fun w _ => isWritable_repeated halong _

theorem isWritable_row {ws : List Nat} {bar : String} {cells : List String}
    (hbar : isWritable bar = true) (hcells : ∀ cell ∈ cells, isWritable cell = true) :
    ∀ line ∈ row ws bar cells, isWritable line = true := by
  have hblank : isWritable " " = true := by decide
  simp only [row, List.forall_mem_map]
  intro i _
  refine isWritable_append (isWritable_append hbar (isWritable_intercalate hbar ?_)) hbar
  simp only [List.forall_mem_map, ← List.map_uncurry_zip_eq_zipWith]
  rintro ⟨w, cell⟩ hcolumn
  refine isWritable_append (isWritable_append hblank ?_) hblank
  have hlines := isWritable_cellLines (hcells cell (List.of_mem_zip hcolumn).2) w
  -- A line of the cell, or blanks below its last line.
  show isWritable ((cellLines w cell).getD i (repeated w " ")) = true
  rw [List.getD_eq_getElem?_getD]
  cases hline : (cellLines w cell)[i]? with
  | none => exact isWritable_repeated hblank w
  | some line => exact hlines line (List.mem_of_getElem? hline)

theorem isWritable_centred {s : String} (hs : isWritable s = true) (width : Nat) :
    isWritable (centred width s) = true := by
  have hblank : isWritable " " = true := by decide
  exact isWritable_append (isWritable_append (isWritable_repeated hblank _) hs)
    (isWritable_repeated hblank _)

/-- **A table of texts that can be written can be written.** -/
theorem isWritable_render {t : Table} (htitle : isWritable t.title = true)
    (hheadings : ∀ cell ∈ t.headings, isWritable cell = true)
    (hrows : ∀ row ∈ t.rows, ∀ cell ∈ row, isWritable cell = true) :
    isWritable t.render = true := by
  have hlines : ∀ line ∈ [centred (t.widths.foldl (fun n w => n + w + 3) 1) t.title,
      rule t.widths "┏" "━" "┳" "┓"] ++ row t.widths "┃" t.headings
      ++ [rule t.widths "┡" "━" "╇" "┩"] ++ t.rows.flatMap (row t.widths "│")
      ++ [rule t.widths "└" "─" "┴" "┘"], isWritable line = true := by
    simp only [List.forall_mem_append, List.forall_mem_cons, List.mem_flatMap, forall_exists_index,
      and_imp]
    refine ⟨⟨⟨⟨⟨isWritable_centred htitle _, ?top, by simp⟩, ?headings⟩, ⟨?middle, by simp⟩⟩,
      ?rows⟩, ?bottom, by simp⟩
    case headings => exact isWritable_row (by decide) hheadings
    case rows => exact fun line cells hcells => isWritable_row (by decide) (hrows cells hcells) line
    all_goals exact isWritable_rule (by decide) (by decide) (by decide) (by decide)
  refine isWritable_join ?_
  simp only [List.forall_mem_map]
  exact fun line hline => isWritable_append (hlines line hline) (by decide)

end Table

end StartupGate
