namespace Mathdown.Text

def byteLength : List Char → Nat
  | [] => 0
  | c :: cs => c.utf8Size + byteLength cs

/-- Cuts after the given number of bytes, or nowhere if a character lies across the place. -/
def cutAt : Nat → List Char → Option (List Char × List Char)
  | 0, cs => some ([], cs)
  | _ + 1, [] => none
  | n + 1, c :: cs =>
    if c.utf8Size ≤ n + 1 then
      (cutAt (n + 1 - c.utf8Size) cs).map fun (front, back) => (c :: front, back)
    else none

/-- The characters between two byte offsets, if both lie in the text where characters start. -/
def slice (start stop : Nat) (cs : List Char) : Option (List Char) := do
  let (_, back) ← cutAt start cs
  if start ≤ stop then
    let (middle, _) ← cutAt (stop - start) back
    return middle
  else none

@[simp] theorem byteLength_append (front back : List Char) :
    byteLength (front ++ back) = byteLength front + byteLength back := by
  induction front with
  | nil => simp [byteLength]
  | cons c cs ih => simp [byteLength, ih, Nat.add_assoc]

@[simp] theorem byteLength_toList (s : String) : byteLength s.toList = s.utf8ByteSize := by
  have measured (cs : List Char) : byteLength cs = (String.ofList cs).utf8ByteSize := by
    induction cs with
    | nil => rfl
    | cons c cs ih =>
      rw [show c :: cs = [c] ++ cs from rfl, String.ofList_append, String.utf8ByteSize_append,
        ← ih, byteLength_append]
      simp [byteLength]
  rw [measured, String.ofList_toList]

theorem cutAt_byteLength (front back : List Char) :
    cutAt (byteLength front) (front ++ back) = some (front, back) := by
  induction front with
  | nil => simp [byteLength, cutAt]
  | cons c cs ih =>
    have size := c.utf8Size_pos
    obtain ⟨n, counted⟩ : ∃ n, c.utf8Size + byteLength cs = n + 1 :=
      ⟨c.utf8Size + byteLength cs - 1, by omega⟩
    have rest : n + 1 - c.utf8Size = byteLength cs := by omega
    have fits : c.utf8Size ≤ n + 1 := by omega
    simp [byteLength, counted, cutAt, fits, rest, ih]

theorem cutAt_eq_some_iff {n : Nat} {cs front back : List Char} :
    cutAt n cs = some (front, back) ↔ cs = front ++ back ∧ byteLength front = n := by
  constructor
  · intro cut
    fun_induction cutAt n cs generalizing front with
    | case1 cs =>
      cases cut
      exact ⟨rfl, rfl⟩
    | case2 => cases cut
    | case3 n c cs fits ih =>
      obtain ⟨⟨inner, rest⟩, later, same⟩ := Option.map_eq_some_iff.mp cut
      cases same
      obtain ⟨rfl, size⟩ := ih later
      refine ⟨rfl, ?_⟩
      rw [byteLength, size]
      omega
    | case4 => cases cut
  · rintro ⟨rfl, rfl⟩
    exact cutAt_byteLength front back

/-- The characters between two cuts, where the text is given in three parts. -/
theorem slice_append (front middle back : List Char) :
    slice (byteLength front) (byteLength front + byteLength middle) (front ++ (middle ++ back)) =
      some middle := by
  simp [slice, cutAt_byteLength]

theorem slice_eq_some_iff {start stop : Nat} {cs middle : List Char} :
    slice start stop cs = some middle ↔
      ∃ front back, cs = front ++ (middle ++ back) ∧ byteLength front = start ∧
        start + byteLength middle = stop := by
  constructor
  · intro sliced
    simp only [slice, Option.bind_eq_bind, Option.bind_eq_some_iff] at sliced
    obtain ⟨⟨front, rest⟩, first, sliced⟩ := sliced
    split at sliced
    · rename_i forward
      obtain ⟨⟨inner, back⟩, second, same⟩ := Option.bind_eq_some_iff.mp sliced
      obtain rfl : inner = middle := Option.some.inj same
      obtain ⟨rfl, size⟩ := cutAt_eq_some_iff.mp first
      obtain ⟨rfl, length⟩ := cutAt_eq_some_iff.mp second
      exact ⟨front, back, rfl, size, by omega⟩
    · cases sliced
  · rintro ⟨front, back, rfl, rfl, rfl⟩
    exact slice_append front middle back

/-- Of two cuts of one text, the earlier one cuts the front of the later one. -/
theorem exists_between {front back front' back' : String}
    (same : front ++ back = front' ++ back') (earlier : front.utf8ByteSize ≤ front'.utf8ByteSize) :
    ∃ middle, front' = front ++ middle ∧ back = middle ++ back' := by
  have characters := congrArg String.toList same
  simp only [String.toList_append] at characters
  rcases List.append_eq_append_iff.mp characters with ⟨middle, shorter, rest⟩ | ⟨extra, longer, rest⟩
  · refine ⟨String.ofList middle, ?_, ?_⟩
    · rw [← String.toList_inj, String.toList_append, String.toList_ofList, shorter]
    · rw [← String.toList_inj, String.toList_append, String.toList_ofList, rest]
  · -- the front cannot be longer, as every character takes a byte
    have none : extra = [] := by
      have sizes := congrArg byteLength longer
      simp only [byteLength_append, byteLength_toList] at sizes
      cases extra with
      | nil => rfl
      | cons c cs =>
        have size := c.utf8Size_pos
        simp only [byteLength] at sizes
        omega
    subst none
    simp only [List.append_nil, List.nil_append, String.toList_inj] at longer rest
    exact ⟨"", by simp [longer], by simp [rest]⟩

theorem isValid_iff {html : String} {n : Nat} :
    String.Pos.Raw.IsValid html ⟨n⟩ ↔
      ∃ front back, html = front ++ back ∧ front.utf8ByteSize = n := by
  rw [String.Pos.Raw.isValid_iff_exists_append]
  simp [String.Pos.Raw.ext_iff, eq_comm]

theorem isValid_byteLength {html : String} {front back : List Char}
    (parts : html.toList = front ++ back) :
    String.Pos.Raw.IsValid html ⟨byteLength front⟩ := by
  refine isValid_iff.mpr ⟨String.ofList front, String.ofList back, ?_, ?_⟩
  · rw [← String.ofList_append, ← parts, String.ofList_toList]
  · rw [← byteLength_toList, String.toList_ofList]

theorem isValid_of_slice {html : String} {start stop : Nat} {middle : List Char}
    (sliced : slice start stop html.toList = some middle) :
    start ≤ stop ∧ String.Pos.Raw.IsValid html ⟨start⟩ ∧ String.Pos.Raw.IsValid html ⟨stop⟩ := by
  obtain ⟨front, back, parts, rfl, rfl⟩ := slice_eq_some_iff.mp sliced
  have further : html.toList = (front ++ middle) ++ back := by rw [parts, List.append_assoc]
  exact ⟨Nat.le_add_right _ _, isValid_byteLength parts,
    byteLength_append front middle ▸ isValid_byteLength further⟩

end Mathdown.Text
