/-!
# Blank characters

Two notions of a blank character are in use, and they differ in the four information separators.

- `isWhiteSpace` is the `White_Space` property of the character database. Numbers in a
  configuration may be surrounded by such characters.
- `isBlank` adds the separators U+001C to U+001F. Everything else that strips blanks uses it.

Trimming is written over lists of characters: `trimStart`, `trimEnd` and `trim` take the class of
characters to drop. Runs of dropped characters never show (`trimEnd_append_of_all`,
`trim_append_of_all`), and what was dropped are such runs (`exists_trimEnd_append`,
`exists_trim_append`).
-/

namespace StartupGate.Text

/-! ## Character classes -/

/-- The `White_Space` property. -/
def isWhiteSpace (c : Char) : Bool :=
  let n := c.toNat
  (0x9 ≤ n && n ≤ 0xd) || n == 0x20 || n == 0x85 || n == 0xa0 || n == 0x1680 ||
    (0x2000 ≤ n && n ≤ 0x200a) || n == 0x2028 || n == 0x2029 || n == 0x202f || n == 0x205f ||
    n == 0x3000

/-- White space and the information separators. -/
def isBlank (c : Char) : Bool :=
  isWhiteSpace c || (0x1c ≤ c.toNat && c.toNat ≤ 0x1f)

/-! ## Trimming -/

/-- Drops the leading characters of the class `p`. -/
def trimStart (p : Char → Bool) (s : List Char) : List Char := s.dropWhile p

/-- Drops the trailing characters of the class `p`. -/
def trimEnd (p : Char → Bool) : List Char → List Char
  | [] => []
  | c :: r =>
    match trimEnd p r with
    | [] => if p c then [] else [c]
    | d :: t => c :: d :: t

/-- Drops the characters of the class `p` at both ends. -/
def trim (p : Char → Bool) (s : List Char) : List Char := trimEnd p (trimStart p s)

theorem trimEnd_eq_nil_of_all {p : Char → Bool} {s : List Char} (h : ∀ c ∈ s, p c = true) :
    trimEnd p s = [] := by
  induction s with
  | nil => rfl
  | cons c r ih =>
    have hr := ih fun d hd => h d (List.mem_cons_of_mem _ hd)
    simp [trimEnd, hr, h c List.mem_cons_self]

/-- A run of dropped characters at the end never shows. -/
theorem trimEnd_append_of_all {p : Char → Bool} (s : List Char) {t : List Char}
    (h : ∀ c ∈ t, p c = true) : trimEnd p (s ++ t) = trimEnd p s := by
  induction s with
  | nil => simpa [trimEnd] using trimEnd_eq_nil_of_all h
  | cons c r ih => simp [trimEnd, ih]

/-- What is left does not end in a dropped character. -/
theorem getLast?_trimEnd {p : Char → Bool} {s : List Char} {c : Char}
    (h : (trimEnd p s).getLast? = some c) : p c = false := by
  induction s with
  | nil => simp [trimEnd] at h
  | cons d r ih =>
    simp only [trimEnd] at h
    cases hr : trimEnd p r with
    | nil =>
      rw [hr] at h
      by_cases hd : p d = true
      · simp [hd] at h
      · simp [hd] at h
        subst h
        simpa using hd
    | cons e t =>
      rw [hr] at h ih
      exact ih (by simpa using h)

/-- What was dropped is a run of the class at the end. -/
theorem exists_trimEnd_append (p : Char → Bool) (s : List Char) :
    ∃ t, (∀ c ∈ t, p c = true) ∧ s = trimEnd p s ++ t := by
  induction s with
  | nil => exact ⟨[], by simp, rfl⟩
  | cons d r ih =>
    obtain ⟨t, ht, hr⟩ := ih
    simp only [trimEnd]
    cases hrest : trimEnd p r with
    | nil =>
      rw [hrest, List.nil_append] at hr
      subst hr
      by_cases hd : p d = true
      · exact ⟨d :: r, by simpa [hd] using ht, by simp [hd]⟩
      · exact ⟨r, ht, by simp [hd]⟩
    | cons e u =>
      rw [hrest] at hr
      exact ⟨t, ht, by rw [hr]; rfl⟩

/-- What was dropped are runs of the class at both ends. -/
theorem exists_trim_append (p : Char → Bool) (s : List Char) :
    ∃ before after, (∀ c ∈ before, p c = true) ∧ (∀ c ∈ after, p c = true) ∧
      s = before ++ trim p s ++ after := by
  obtain ⟨after, hafter, hs⟩ := exists_trimEnd_append p (trimStart p s)
  refine ⟨s.takeWhile p, after, List.all_eq_true.mp List.all_takeWhile, hafter, ?_⟩
  rw [List.append_assoc, trim, ← hs, trimStart, List.takeWhile_append_dropWhile]

theorem mem_of_mem_trim {p : Char → Bool} {s : List Char} {c : Char} (h : c ∈ trim p s) :
    c ∈ s := by
  obtain ⟨before, after, -, -, hs⟩ := exists_trim_append p s
  rw [hs]
  simp [h]

/-- Runs of dropped characters at both ends never show. -/
theorem trim_append_of_all {p : Char → Bool} {before after : List Char} (s : List Char)
    (hbefore : ∀ c ∈ before, p c = true) (hafter : ∀ c ∈ after, p c = true) :
    trim p (before ++ s ++ after) = trim p s := by
  rw [trim, trim, trimStart, trimStart, List.append_assoc, List.dropWhile_append_of_pos hbefore,
    List.dropWhile_append]
  split
  · -- Nothing is left of the text, nor of the run after it.
    rename_i hempty
    rw [List.isEmpty_iff.mp hempty, ← List.append_nil after, List.dropWhile_append_of_pos hafter,
      List.dropWhile_nil]
  · exact trimEnd_append_of_all _ hafter

/-- Nothing is left exactly where every character is of the class. -/
theorem trim_eq_nil_iff {p : Char → Bool} {s : List Char} :
    trim p s = [] ↔ ∀ c ∈ s, p c = true := by
  constructor
  · intro hnil
    obtain ⟨before, after, hbefore, hafter, hs⟩ := exists_trim_append p s
    rw [hs, hnil, List.append_nil]
    exact List.forall_mem_append.mpr ⟨hbefore, hafter⟩
  · intro hall
    have hdropped := trim_append_of_all [] hall (List.forall_mem_nil _)
    rw [List.append_nil, List.append_nil] at hdropped
    exact hdropped

/-- Drops blanks at both ends of a text. -/
def stripBlank (s : String) : String := String.ofList (trim isBlank s.toList)

/-- Drops every trailing slash of a text. -/
def dropSlashes (s : String) : String := String.ofList (trimEnd (· == '/') s.toList)

/-- A text is what is left of it without trailing slashes, followed by slashes. -/
theorem exists_dropSlashes_append (s : String) :
    ∃ slashes : List Char, (∀ c ∈ slashes, c = '/') ∧
      s.toList = (dropSlashes s).toList ++ slashes := by
  obtain ⟨slashes, hslashes, hs⟩ := exists_trimEnd_append (· == '/') s.toList
  refine ⟨slashes, fun c hc => by simpa using hslashes c hc, ?_⟩
  rw [dropSlashes, String.toList_ofList]
  exact hs

theorem getLast?_dropSlashes (s : String) : (dropSlashes s).toList.getLast? ≠ some '/' := by
  rw [dropSlashes, String.toList_ofList]
  intro h
  have hclass := getLast?_trimEnd h
  cases hclass

end StartupGate.Text
