namespace Mathdown.Text

/-- Whether a character has the Unicode property White_Space. -/
def isBlank (c : Char) : Bool :=
  let n := c.toNat
  (9 ≤ n && n ≤ 13) || n == 0x20 || n == 0x85 || n == 0xA0 || n == 0x1680 ||
    (0x2000 ≤ n && n ≤ 0x200A) || n == 0x2028 || n == 0x2029 || n == 0x202F || n == 0x205F ||
    n == 0x3000

def trimLeft (cs : List Char) : List Char := cs.dropWhile isBlank

def trimRight (cs : List Char) : List Char := (cs.reverse.dropWhile isBlank).reverse

def trim (s : String) : String := String.ofList (trimRight (trimLeft s.toList))

def dark (cs : List Char) : List Char := cs.filter fun c => !isBlank c

@[simp] theorem dark_append (front back : List Char) : dark (front ++ back) = dark front ++ dark back :=
  List.filter_append ..

theorem dark_eq_nil {cs : List Char} (blank : cs.all isBlank = true) : dark cs = [] := by
  simpa [dark] using blank

def allBlank (s : String) : Bool := s.toList.all isBlank

/-- The first maximal run of characters that are not blank, if there is one. -/
def firstWord (s : String) : Option String :=
  match (trimLeft s.toList).takeWhile (fun c => !isBlank c) with
  | [] => none
  | c :: cs => some (String.ofList (c :: cs))

/-- Cuts at every line feed; the part after the last one is always there, possibly empty. -/
def splitLines : List Char → List (List Char)
  | [] => [[]]
  | c :: cs =>
    if c = '\n' then [] :: splitLines cs
    else
      match splitLines cs with
      | [] => [[c]]
      | line :: rest => (c :: line) :: rest

def dropReturn (line : List Char) : List Char :=
  if line.getLast? = some '\r' then line.dropLast else line

/--
The lines of a text. A line ends at a line feed, with or without a carriage return before it, and
the end of the text ends a last line only if that line holds something.
-/
def lines (s : String) : List String :=
  let parts := splitLines s.toList
  let full := parts.dropLast.map dropReturn
  let last := match parts.getLast? with
    | none | some [] => []
    | some part => [part]
  (full ++ last).map String.ofList

theorem trimLeft_append (front back : List Char) :
    trimLeft (front ++ back) =
      if front.all isBlank then trimLeft back else trimLeft front ++ back := by
  induction front with
  | nil => simp [trimLeft]
  | cons c cs ih => cases blank : isBlank c <;> simp_all [trimLeft]

theorem trimRight_append (front back : List Char) :
    trimRight (front ++ back) =
      if back.all isBlank then trimRight front else front ++ trimRight back := by
  simp only [trimRight, List.reverse_append]
  have cut := trimLeft_append back.reverse front.reverse
  simp only [trimLeft, List.all_reverse] at cut
  rw [cut]
  split <;> simp

theorem allBlank_append (front back : String) :
    allBlank (front ++ back) = (allBlank front && allBlank back) := by
  simp [allBlank]

theorem exists_trimRight_append (cs : List Char) :
    ∃ back, back.all isBlank = true ∧ cs = trimRight cs ++ back := by
  refine ⟨(cs.reverse.takeWhile isBlank).reverse, ?_, ?_⟩
  · rw [List.all_reverse, List.all_takeWhile]
  · rw [trimRight, ← List.reverse_append, List.takeWhile_append_dropWhile, List.reverse_reverse]

theorem exists_trim_append (s : String) :
    ∃ lead trail : List Char, lead.all isBlank = true ∧ trail.all isBlank = true ∧
      s.toList = lead ++ (trim s).toList ++ trail := by
  obtain ⟨trail, blank, cut⟩ := exists_trimRight_append (trimLeft s.toList)
  refine ⟨s.toList.takeWhile isBlank, trail, List.all_takeWhile, blank, ?_⟩
  rw [trim, String.toList_ofList, List.append_assoc, ← cut, trimLeft, List.takeWhile_append_dropWhile]

theorem trim_between {lead trail : String} (front : allBlank lead = true)
    (back : allBlank trail = true) (s : String) : trim (lead ++ s ++ trail) = trim s := by
  have inner : trimRight (trimLeft (s.toList ++ trail.toList)) = trimRight (trimLeft s.toList) := by
    have gone : trimLeft trail.toList = [] := by
      have cut := trimLeft_append trail.toList []
      rwa [if_pos (show trail.toList.all isBlank = true from back), List.append_nil] at cut
    rw [trimLeft_append]
    split
    · rename_i blank
      have cut := trimLeft_append s.toList []
      rw [if_pos blank, List.append_nil] at cut
      rw [gone, cut]
      rfl
    · rw [trimRight_append, if_pos (show trail.toList.all isBlank = true from back)]
  rw [trim, trim, String.toList_append, String.toList_append, List.append_assoc, trimLeft_append,
    if_pos (show lead.toList.all isBlank = true from front), inner]

/-- Text that begins and ends with characters that are not blank. -/
structure Solid (cs : List Char) : Prop where
  first : ∃ c rest, cs = c :: rest ∧ isBlank c = false
  last : ∃ front c, cs = front ++ [c] ∧ isBlank c = false

theorem Solid.ofEnds {cs : List Char} (first : cs.head?.any (!isBlank ·) = true)
    (last : cs.getLast?.any (!isBlank ·) = true) : Solid cs := by
  rw [Option.any_eq_true] at first last
  obtain ⟨c, head, dark⟩ := first
  obtain ⟨d, tail, dim⟩ := last
  obtain ⟨rest, rfl⟩ := List.head?_eq_some_iff.mp head
  obtain ⟨front, shape⟩ := List.getLast?_eq_some_iff.mp tail
  exact ⟨⟨c, rest, rfl, by simpa using dark⟩, ⟨front, d, shape, by simpa using dim⟩⟩

theorem Solid.all_eq_false {cs : List Char} (solid : Solid cs) : cs.all isBlank = false := by
  obtain ⟨c, rest, rfl, dark⟩ := solid.first
  simp [dark]

theorem Solid.trimLeft_append {cs : List Char} (solid : Solid cs) (back : List Char) :
    trimLeft (cs ++ back) = cs ++ back := by
  obtain ⟨c, rest, rfl, dark⟩ := solid.first
  simp [trimLeft, dark]

theorem Solid.trimRight_append {cs : List Char} (solid : Solid cs) (front : List Char) :
    trimRight (front ++ cs) = front ++ cs := by
  obtain ⟨before, c, rfl, dark⟩ := solid.last
  simp [trimRight, dark]

theorem Solid.append {front back : List Char} (left : Solid front) (right : Solid back)
    (middle : List Char) : Solid (front ++ middle ++ back) := by
  obtain ⟨c, rest, rfl, dark⟩ := left.first
  obtain ⟨before, d, rfl, dim⟩ := right.last
  exact ⟨⟨c, _, rfl, dark⟩, ⟨_, d, (List.append_assoc ..).symm, dim⟩⟩

private theorem dark_head_of_dropWhile_eq {cs : List Char} (kept : cs.dropWhile isBlank = cs)
    (some : cs ≠ []) : ∃ c rest, cs = c :: rest ∧ isBlank c = false := by
  cases cs with
  | nil => exact absurd rfl some
  | cons c rest =>
    refine ⟨c, rest, rfl, ?_⟩
    cases blank : isBlank c with
    | false => rfl
    | true =>
      have shorter := (List.dropWhile_suffix isBlank : rest.dropWhile isBlank <:+ rest).length_le
      have same := congrArg List.length kept
      simp [blank] at same
      omega

theorem length_trimLeft_le (cs : List Char) : (trimLeft cs).length ≤ cs.length :=
  (List.dropWhile_suffix isBlank).length_le

theorem length_trimRight_le (cs : List Char) : (trimRight cs).length ≤ cs.length := by
  simpa [trimRight, trimLeft] using length_trimLeft_le cs.reverse

theorem length_trim_le (s : String) : (trim s).length ≤ s.length := by
  rw [trim, String.length_ofList, ← String.length_toList]
  exact Nat.le_trans (length_trimRight_le _) (length_trimLeft_le _)

theorem solid_iff {s : String} : Solid s.toList ↔ s ≠ "" ∧ trim s = s := by
  constructor
  · intro solid
    constructor
    · rintro rfl
      obtain ⟨c, rest, empty, -⟩ := solid.first
      simp at empty
    · have left := solid.trimLeft_append []
      have right := solid.trimRight_append []
      simp only [List.append_nil, List.nil_append] at left right
      rw [trim, left, right, String.ofList_toList]
  · rintro ⟨some, kept⟩
    have chars : trimRight (trimLeft s.toList) = s.toList := by
      rw [← String.toList_ofList (l := trimRight _)]
      exact congrArg String.toList kept
    have shorter := length_trimRight_le (trimLeft s.toList)
    rw [chars] at shorter
    have left : trimLeft s.toList = s.toList :=
      (List.dropWhile_suffix isBlank).eq_of_length_le shorter
    rw [left, trimRight] at chars
    have nonempty : s.toList ≠ [] := by simpa using some
    refine ⟨dark_head_of_dropWhile_eq left nonempty, ?_⟩
    have back : s.toList.reverse.dropWhile isBlank = s.toList.reverse := by
      simpa using congrArg List.reverse chars
    obtain ⟨c, rest, reversed, dark⟩ := dark_head_of_dropWhile_eq back (by simpa using nonempty)
    refine ⟨rest.reverse, c, ?_, dark⟩
    simpa using congrArg List.reverse reversed

private theorem dark_of_dropWhile {cs rest : List Char} {c : Char}
    (left : cs.dropWhile isBlank = c :: rest) : isBlank c = false := by
  have dark := List.head?_dropWhile_not isBlank cs
  rw [left] at dark
  simpa using dark

theorem solid_trim {s : String} (some : trim s ≠ "") : Solid (trim s).toList := by
  rw [trim, String.toList_ofList, trimRight]
  have nonempty : (trimLeft s.toList).reverse.dropWhile isBlank ≠ [] := by
    intro none
    exact some (by rw [trim, trimRight, none]; rfl)
  obtain ⟨d, rest, ends⟩ := List.exists_cons_of_ne_nil nonempty
  have inner : (d :: rest).reverse <+: trimLeft s.toList := by
    rw [← ends]
    simpa using List.reverse_prefix.mpr
      (List.dropWhile_suffix isBlank : (trimLeft s.toList).reverse.dropWhile isBlank <:+ _)
  rw [ends]
  refine ⟨?_, rest.reverse, d, List.reverse_cons, dark_of_dropWhile ends⟩
  cases first : (d :: rest).reverse with
  | nil => simp at first
  | cons c more =>
    obtain ⟨back, whole⟩ := inner
    rw [first, List.cons_append] at whole
    exact ⟨c, more, rfl, dark_of_dropWhile whole.symm⟩

theorem firstWord_dark {s word : String} (first : firstWord s = some word) :
    word ≠ "" ∧ ∀ c ∈ word.toList, isBlank c = false := by
  simp only [firstWord] at first
  split at first
  · cases first
  · rename_i c cs taken
    obtain rfl := Option.some.inj first
    refine ⟨by simp [String.ext_iff], fun d member => ?_⟩
    have dark : (c :: cs).all (fun c => !isBlank c) = true := by rw [← taken, List.all_takeWhile]
    rw [String.toList_ofList] at member
    simpa using List.all_eq_true.mp dark d member

end Mathdown.Text
