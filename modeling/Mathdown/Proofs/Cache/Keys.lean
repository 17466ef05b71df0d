import Mathdown.Cache.Key

namespace Mathdown.Cache.Key

/-- Whether the language of a key is one that a code block can have. -/
def Clean : Key → Prop
  | .highlight language _ => ∀ word, language = some word → word ≠ "" ∧ '\n' ∉ word.toList
  | _ => True

private theorem getD_injective {first second : Option String}
    (clean : ∀ word, first = some word → word ≠ "") (clean' : ∀ word, second = some word → word ≠ "")
    (same : first.getD "" = second.getD "") : first = second := by
  cases first with
  | none =>
    cases second with
    | none => rfl
    | some word => exact absurd same.symm (clean' word rfl)
  | some word =>
    cases second with
    | none => exact absurd same (clean word rfl)
    | some word => exact congrArg some same

private theorem notMem_getD {language : Option String}
    (clean : ∀ word, language = some word → '\n' ∉ word.toList) :
    '\n' ∉ (language.getD "").toList := by
  cases language with
  | none => exact List.not_mem_nil
  | some word => exact clean word rfl

private theorem parts_eq_of_append_cons_eq {c : Char} {front front' back back' : List Char}
    (absent : c ∉ front) (absent' : c ∉ front') (same : front ++ c :: back = front' ++ c :: back') :
    front = front' ∧ back = back' := by
  induction front generalizing front' with
  | nil =>
    cases front' with
    | nil => exact ⟨rfl, (List.cons.inj same).2⟩
    | cons d rest => exact absurd ((List.cons.inj same).1 ▸ List.mem_cons_self ..) absent'
  | cons d rest ih =>
    cases front' with
    | nil => exact absurd ((List.cons.inj same).1 ▸ List.mem_cons_self ..) absent
    | cons d' rest' =>
      obtain ⟨rfl, others⟩ := List.cons.inj same
      obtain ⟨rfl, rfl⟩ := ih (fun member => absent (List.mem_cons_of_mem _ member))
        (fun member => absent' (List.mem_cons_of_mem _ member)) others
      exact ⟨rfl, rfl⟩

/-- Keys that are written alike are the same key. -/
theorem text_injective {first second : Key} (clean : first.Clean) (clean' : second.Clean)
    (same : first.text = second.text) : first = second := by
  have chars := congrArg String.toList same
  cases first with
  | highlight language code =>
    cases second with
    | highlight language' code' =>
      simp only [text, String.toList_append, List.append_assoc, List.append_cancel_left_eq] at chars
      change (language.getD "").toList ++ '\n' :: code.toList =
        (language'.getD "").toList ++ '\n' :: code'.toList at chars
      obtain ⟨languages, codes⟩ := parts_eq_of_append_cons_eq
        (notMem_getD fun word some => (clean word some).2)
        (notMem_getD fun word some => (clean' word some).2) chars
      have sameLanguage := getD_injective (fun word some => (clean word some).1)
        (fun word some => (clean' word some).1) (String.toList_inj.mp languages)
      rw [sameLanguage, String.toList_inj.mp codes]
    | math => simp [text] at chars
    | result => simp [text] at chars
  | math expression display =>
    cases second with
    | highlight => simp [text] at chars
    | math expression' display' =>
      cases display <;> cases display' <;> simp [text] at chars ⊢ <;> exact String.toList_inj.mp chars
    | result => simp [text] at chars
  | result input =>
    cases second with
    | highlight => simp [text] at chars
    | math => simp [text] at chars
    | result input' => simpa [text, String.toList_inj] using chars

end Mathdown.Cache.Key
