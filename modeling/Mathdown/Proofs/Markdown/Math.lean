import Mathdown.Markdown.Document

namespace Mathdown.Markdown

def Mark.isDollar : Mark → Bool
  | .dollar .. => true
  | _ => false

def NoDollar (tokens : List Token) : Prop := ∀ t ∈ tokens, t.mark.isDollar = false

def NoMath (events : List Event) : Prop := ∀ expression display, .math expression display ∉ events

@[simp] theorem noMath_append {first second : List Event} :
    NoMath (first ++ second) ↔ NoMath first ∧ NoMath second := by
  simp only [NoMath, List.mem_append, not_or, forall_and]

variable {mode : LexMode} {l : Lexing}

theorem NoDollar.flush (plain : NoDollar l.tokens) (place : Nat) :
    NoDollar (l.flush place).tokens := by
  unfold Lexing.flush
  split
  · intro t member
    rcases List.mem_cons.mp member with rfl | member
    · rfl
    · exact plain t member
  · exact plain

theorem NoDollar.add (plain : NoDollar l.tokens) {mark : Mark} (other : mark.isDollar = false)
    (place size : Nat) (source : List Char) : NoDollar (l.add mark place size source).tokens := by
  intro t member
  rcases List.mem_cons.mp member with rfl | member
  · exact other
  · exact plain.flush place t member

theorem NoDollar.skip (plain : NoDollar l.tokens) (place size : Nat) (source : List Char) :
    NoDollar (l.skip place size source).tokens := plain.flush place

private theorem noDollar_lexLine (off : mode.options.math = false) (fuel left place : Nat)
    (before : Option Char) (source : List Char) (plain : NoDollar l.tokens) :
    NoDollar (lexLine mode fuel left place before source l).tokens := by
  induction fuel generalizing left place before source l with
  | zero => exact plain.flush _
  | succ fuel ih =>
    cases left with
    | zero => exact plain.flush _
    | succ left =>
      cases source with
      | nil => exact plain.flush _
      | cons c cs =>
        simp only [lexLine, off, Bool.and_false, Bool.false_eq_true, if_false]
        repeat' split
        all_goals first
          | exact ih _ _ _ _ plain
          | exact ih _ _ _ _ (plain.add rfl _ _ _)
          | exact ih _ _ _ _ (plain.skip _ _ _)
          | exact ih _ _ _ _ ((plain.skip _ _ _).add rfl _ _ _)

private theorem noDollar_lexLines (off : mode.options.math = false) (fuel place : Nat)
    (source : List Char) (plain : NoDollar l.tokens) :
    NoDollar (lexLines mode fuel place source l).tokens := by
  induction fuel generalizing place source l with
  | zero => exact plain
  | succ fuel ih =>
    unfold lexLines
    dsimp only
    split
    · exact noDollar_lexLine off _ _ _ _ _ plain
    · refine ih _ _ fun t member => ?_
      rcases List.mem_cons.mp member with rfl | member
      · dsimp only
        split
        · rfl
        · split <;> rfl
      · refine noDollar_lexLine off _ _ _ _ _ ?_ t member
        exact plain

theorem noDollar_ofChars (off : mode.options.math = false) (source : List Char) :
    NoDollar (Token.ofChars mode source) := by
  intro t member
  have plain : NoDollar ({ start := 0, source, tokens := [], groups := {} } : Lexing).tokens :=
    fun t none => absurd none List.not_mem_nil
  exact noDollar_lexLines off _ 0 source plain t (List.mem_reverse.mp member)

namespace NoDollar

variable {tokens : List Token}

theorem of_subset {fewer : List Token} (plain : NoDollar tokens) (subset : fewer ⊆ tokens) :
    NoDollar fewer :=
  fun t member => plain t (subset member)

theorem dropTo (plain : NoDollar tokens) (place : Nat) : NoDollar (Token.dropTo place tokens) := by
  induction tokens with
  | nil => exact plain
  | cons first rest ih =>
    have others := plain.of_subset (List.subset_cons_self first rest)
    unfold Token.dropTo
    split
    · exact ih others
    · split
      · intro t member
        rcases List.mem_cons.mp member with rfl | member
        · exact plain first (List.mem_cons_self ..)
        · exact others t member
      · exact plain

theorem markTried (plain : NoDollar tokens) (place : Nat) :
    NoDollar (Inline.markTried place tokens) := by
  intro t member
  obtain ⟨before, own, rfl⟩ := List.mem_map.mp member
  split
  · split
    · rfl
    · exact plain before own
  · exact plain before own

end NoDollar

namespace Inline

/-- Whether there is no math in any of some pieces of content. -/
def NoMathIn (items : List Inline) : Prop := ∀ item ∈ items, NoMath (toEvents item)

theorem noMath_allToEvents {items : List Inline} : NoMath (allToEvents items) ↔ NoMathIn items := by
  induction items with
  | nil => simp [allToEvents, NoMath, NoMathIn]
  | cons item rest ih => rw [allToEvents, noMath_append, ih, NoMathIn, NoMathIn, List.forall_mem_cons]

namespace NoMathIn

variable {items more : List Inline}

theorem cons {item : Inline} (first : NoMath (toEvents item)) (plain : NoMathIn items) :
    NoMathIn (item :: items) := List.forall_mem_cons.mpr ⟨first, plain⟩

theorem append (plain : NoMathIn items) (others : NoMathIn more) : NoMathIn (items ++ more) :=
  List.forall_mem_append.mpr ⟨plain, others⟩

theorem reverse (plain : NoMathIn items) : NoMathIn items.reverse :=
  fun item member => plain item (List.mem_reverse.mp member)

theorem nil : NoMathIn [] := fun _ none => absurd none List.not_mem_nil

end NoMathIn

private def Opener.Plain (openers : List Opener) : Prop := ∀ o ∈ openers, NoMathIn o.before

private theorem noMath_within {tag : Tag} {items : List Inline} (plain : NoMathIn items) :
    NoMath (.start tag :: allToEvents items ++ [.stop tag.toEnd]) := by
  intro expression display member
  have inner := noMath_allToEvents.mpr plain expression display
  simp [inner] at member

private theorem noMathIn_giveUp {openers : List Opener} {items : List Inline}
    (before : Opener.Plain openers) (plain : NoMathIn items) : NoMathIn (giveUp openers items) := by
  induction openers generalizing items with
  | nil => exact plain
  | cons o openers ih =>
    rw [giveUp, List.foldl_cons]
    refine ih (fun other member => before other (List.mem_cons_of_mem o member)) ?_
    refine plain.append (.cons ?_ (before o (List.mem_cons_self ..)))
    simp [delimiterText, toEvents, NoMath]

private theorem noMathIn_emphasise (c : Char) (strength : Nat) {children : List Inline}
    (plain : NoMathIn children) : NoMathIn (emphasise c strength children) := by
  fun_induction emphasise c strength children with
  | case1 children => exact plain
  | case2 children =>
    refine .cons ?_ .nil
    split
    · exact noMath_within plain
    · exact noMath_within plain
  | case3 n children ih =>
    refine ih (.cons ?_ .nil)
    split
    · exact noMath_within plain
    · exact noMath_within plain

private theorem noMathIn_close (c : Char) (run : Nat) (both : Bool) (fuel count : Nat)
    {openers : List Opener} {items : List Inline} (before : Opener.Plain openers)
    (plain : NoMathIn items) :
    Opener.Plain (close c run both fuel count openers items).2.1 ∧
      NoMathIn (close c run both fuel count openers items).2.2 := by
  -- What the closing run pairs with, and what is given up on the way there.
  have wraps {openers : List Opener} {items : List Inline} (before : Opener.Plain openers)
      (plain : NoMathIn items) {o : Opener} {outer : List Opener}
      (found : openers.drop (openers.takeWhile fun o => !matchesRun c run both o).length = o :: outer)
      (used : Nat) :
      Opener.Plain (o :: outer) ∧ NoMathIn (emphasise c used
        (giveUp (openers.takeWhile fun o => !matchesRun c run both o) items).reverse) := by
    refine ⟨fun other member => before other (List.mem_of_mem_drop (found ▸ member)), ?_⟩
    refine noMathIn_emphasise c used (noMathIn_giveUp ?_ plain).reverse
    exact fun other member => before other (List.takeWhile_subset _ member)
  fun_induction close c run both fuel count openers items with
  | case1 count openers items => exact ⟨before, plain⟩
  | case2 fuel openers items => exact ⟨before, plain⟩
  | case3 fuel count openers items some inner none => exact ⟨before, plain⟩
  | case4 fuel count openers items some inner o outer found used wrapped less ih =>
    obtain ⟨rest, whole⟩ := wraps before plain found used
    refine ih (fun other member => ?_) whole.reverse
    rcases List.mem_cons.mp member with rfl | member
    · exact rest o (List.mem_cons_self ..)
    · exact rest other (List.mem_cons_of_mem o member)
  | case5 fuel count openers items some inner o outer found used wrapped most ih =>
    obtain ⟨rest, whole⟩ := wraps before plain found used
    refine ih (fun other member => rest other (List.mem_cons_of_mem o member)) ?_
    exact whole.reverse.append (rest o (List.mem_cons_self ..))

private theorem noMathIn_nestFrom {rest : List Inline} {openers : List Opener} {items : List Inline}
    (ahead : NoMathIn rest) (before : Opener.Plain openers) (plain : NoMathIn items) :
    NoMathIn (nestFrom rest openers items) := by
  -- What a run that may close leaves of the openers and the content.
  have closes {c : Char} {size : Nat} {canClose both : Bool} {openers : List Opener}
      {items : List Inline} (before : Opener.Plain openers) (plain : NoMathIn items)
      {left : Nat} {outer : List Opener} {content : List Inline}
      (closed : (if canClose = true then close c size both (size + 1) size openers items
        else (size, openers, items)) = (left, outer, content)) :
      Opener.Plain outer ∧ NoMathIn content := by
    split at closed
    · have kept := noMathIn_close c size both (size + 1) size before plain
      rwa [closed] at kept
    · cases closed
      exact ⟨before, plain⟩
  fun_induction nestFrom rest openers items with
  | case1 openers items => exact (noMathIn_giveUp before plain).reverse
  | case2 c size canOpen canClose rest openers items both left outer content closed none ih =>
    obtain ⟨before, plain⟩ := closes before plain closed
    exact ih (List.forall_mem_cons.mp ahead).2 before plain
  | case3 c size canClose rest openers items left outer content some both closed ih =>
    obtain ⟨before, plain⟩ := closes before plain closed
    exact ih (List.forall_mem_cons.mp ahead).2 (List.forall_mem_cons.mpr ⟨plain, before⟩) .nil
  | case4 c size canOpen canClose rest openers items both left outer content closed some shut ih =>
    obtain ⟨before, plain⟩ := closes before plain closed
    refine ih (List.forall_mem_cons.mp ahead).2 before (plain.cons ?_)
    simp [delimiterText, toEvents, NoMath]
  | case5 item rest openers items other ih =>
    obtain ⟨first, ahead⟩ := List.forall_mem_cons.mp ahead
    exact ih ahead before (plain.cons first)

theorem noMathIn_nest {items : List Inline} (plain : NoMathIn items) : NoMathIn (nest items) := by
  unfold nest
  refine noMathIn_nestFrom ?_ (fun o none => absurd none List.not_mem_nil) .nil
  split
  · unfold endEscaped
    split
    · refine NoMathIn.append (fun item member => plain item (List.dropLast_subset _ member)) ?_
      exact .cons (by simp [toEvents, NoMath]) .nil
    · exact plain
  · exact plain

private def Bracket.Plain (brackets : List Bracket) : Prop := ∀ b ∈ brackets, NoMathIn b.before

private theorem noMathIn_dropBrackets {brackets : List Bracket} {items : List Inline}
    (before : Bracket.Plain brackets) (plain : NoMathIn items) :
    NoMathIn (dropBrackets brackets items) := by
  induction brackets generalizing items with
  | nil => exact plain
  | cons b brackets ih =>
    rw [dropBrackets, List.foldl_cons]
    refine ih (fun other member => before other (List.mem_cons_of_mem b member)) ?_
    refine plain.append (.cons ?_ (before b (List.mem_cons_self ..)))
    simp [toEvents, NoMath]

private theorem codeEnd?_subset {size : Nat} {tokens behind : List Token} {last : Token}
    (found : codeEnd? size tokens = some (last, behind)) : behind ⊆ tokens := by
  induction tokens with
  | nil => cases found
  | cons t rest ih =>
    have tail := List.subset_cons_self t rest
    unfold codeEnd? at found
    split at found
    · split at found
      · cases found
        exact tail
      · exact List.Subset.trans (ih found) tail
    · exact List.Subset.trans (ih found) tail

private theorem angle?_plain {scope : Scope} {t : Token} {rest behind : List Token} {item : Inline}
    (plain : NoDollar rest) (found : angle? scope t rest = some (item, behind)) :
    NoMath (toEvents item) ∧ NoDollar behind := by
  unfold angle? at found
  dsimp only at found
  split at found
  · cases found
  · split at found
    · cases found
      exact ⟨noMath_within (.cons (by simp [toEvents, NoMath]) .nil), plain.dropTo _⟩
    · split at found
      · cases found
        exact ⟨by simp [toEvents, NoMath], plain.dropTo _⟩
      · obtain ⟨after, -, same⟩ := Option.map_eq_some_iff.mp found
        cases same
        exact ⟨by simp [toEvents, NoMath], plain.dropTo _⟩

private theorem code?_plain {scope : Scope} {t : Token} {size : Nat} {escaped : Bool}
    {rest behind : List Token} {spans : List Inline} (plain : NoDollar rest)
    (found : code? scope t size escaped rest = some (spans, behind)) :
    NoMathIn spans ∧ NoDollar behind := by
  unfold code? at found
  dsimp only at found
  generalize (if escaped = true then size - 1 else size) = width at found
  split at found
  · cases found
  · split at found
    · cases found
    · rename_i last rest' ends
      cases found
      refine ⟨?_, plain.of_subset (codeEnd?_subset ends)⟩
      split
      · exact .cons (by simp [toEvents, NoMath]) (.cons (by simp [toEvents, NoMath]) .nil)
      · exact .cons (by simp [toEvents, NoMath]) .nil

private theorem span?_plain {scope : Scope} {t : Token} {rest behind : List Token}
    {spans : List Inline} (other : t.mark.isDollar = false) (plain : NoDollar rest)
    (found : span? scope t rest = some (spans, behind)) : NoMathIn spans ∧ NoDollar behind := by
  unfold span? at found
  split at found
  · obtain ⟨⟨item, after⟩, angle, same⟩ := Option.map_eq_some_iff.mp found
    cases same
    obtain ⟨first, kept⟩ := angle?_plain plain angle
    exact ⟨.cons first .nil, kept⟩
  · rename_i dollar
    rw [dollar] at other
    cases other
  · exact code?_plain plain found
  · cases found

private theorem followingLabel?_plain {scope : Scope} {rest behind : List Token} {label : List Char}
    {stop : Nat} (plain : NoDollar rest)
    (found : followingLabel? scope rest = some (label, stop, behind)) : NoDollar behind := by
  unfold followingLabel? at found
  split at found
  · cases found
  · simp only [Option.bind_eq_bind, Option.bind_eq_some_iff] at found
    obtain ⟨⟨name, after⟩, -, same⟩ := found
    cases same
    exact plain.dropTo _

private theorem referenceTarget_plain (scope : Scope) (b : Bracket) (closing : Token) (viable : Bool)
    {rest : List Token} (plain : NoDollar rest) :
    NoDollar (referenceTarget scope b closing viable rest).2 ∧
      ∀ t, (referenceTarget scope b closing viable rest).1 = some t → NoDollar t.behind := by
  -- A label of its own leads to what is behind it.
  have own {behind : List Token} (kept : NoDollar behind) :
      ∀ t, (if viable then ((ownLabel? scope b closing).bind scope.definitions.find?).map
        fun target => (⟨target, behind⟩ : Target) else none) = some t → NoDollar t.behind := by
    intro t led
    split at led
    · obtain ⟨target, -, rfl⟩ := Option.map_eq_some_iff.mp led
      exact kept
    · cases led
  unfold referenceTarget
  split
  · rename_i label stop behind kind
    have kept : NoDollar behind := by
      unfold referenceKind at kind
      split at kind
      · split at kind
        · cases kind
        · split at kind
          · rename_i found
            cases kind
            exact followingLabel?_plain plain found
          · cases kind
      · cases kind
    split
    · refine ⟨plain, fun t led => ?_⟩
      cases led
      exact kept
    · exact ⟨plain.markTried stop, fun t led => by cases led⟩
  · rename_i behind kind
    refine ⟨plain, own ?_⟩
    unfold referenceKind at kind
    split at kind
    · split at kind
      · cases kind
        exact plain.of_subset (List.drop_subset 2 _)
      · split at kind <;> cases kind
    · cases kind
  · exact ⟨plain, own plain⟩

private theorem target_plain {scope : Scope} {b : Bracket} {closing : Token} {viable : Bool}
    {rest behind : List Token} {found : Option Target} (plain : NoDollar rest)
    (led : target scope b closing viable rest = (found, behind)) :
    NoDollar behind ∧ ∀ t, found = some t → NoDollar t.behind := by
  unfold target at led
  split at led
  · cases led
    exact ⟨plain, fun t none => by cases none⟩
  · split at led
    · rename_i inner hit
      cases led
      refine ⟨plain, fun t same => ?_⟩
      cases same
      unfold inlineTarget? at hit
      simp only [Option.bind_eq_bind, Option.bind_eq_some_iff] at hit
      obtain ⟨⟨url, title, after⟩, -, hit⟩ := hit
      split at hit
      · cases hit
      · cases hit
        exact plain.dropTo _
    · have kept := referenceTarget_plain scope b closing viable plain
      rw [led] at kept
      exact kept

private theorem noMathIn_resolveFrom {scope : Scope} {fuel : Nat} {tokens : List Token}
    {brackets : List Bracket} {items : List Inline} (ahead : NoDollar tokens)
    (before : Bracket.Plain brackets) (plain : NoMathIn items) :
    NoMathIn (resolveFrom scope fuel tokens brackets items) := by
  fun_induction resolveFrom scope fuel tokens brackets items with
  | case1 tokens brackets items => exact (noMathIn_dropBrackets before plain).reverse
  | case2 fuel brackets items => exact (noMathIn_dropBrackets before plain).reverse
  | case3 fuel t rest brackets items image mark ih =>
    exact ih (List.forall_mem_cons.mp ahead).2 (List.forall_mem_cons.mpr ⟨plain, before⟩) .nil
  | case4 fuel t rest items viable b outer mark found behind led link ih =>
    obtain ⟨-, kept⟩ := target_plain (List.forall_mem_cons.mp ahead).2 led
    obtain ⟨first, before⟩ := List.forall_mem_cons.mp before
    refine ih (kept found rfl) ?_ (first.cons (noMath_within (noMathIn_nest plain.reverse)))
    split
    · exact before
    · intro other member
      obtain ⟨kept, own, rfl⟩ := List.mem_map.mp member
      split
      · exact before kept own
      · exact before kept own
  | case5 fuel t rest items viable b outer mark behind led ih =>
    obtain ⟨kept, -⟩ := target_plain (List.forall_mem_cons.mp ahead).2 led
    obtain ⟨first, before⟩ := List.forall_mem_cons.mp before
    refine ih kept before (.cons (by simp [toEvents, NoMath]) (plain.append (.cons ?_ first)))
    simp [toEvents, NoMath]
  | case6 fuel t rest brackets items spans behind found open_ closing ih =>
    obtain ⟨other, ahead⟩ := List.forall_mem_cons.mp ahead
    obtain ⟨new, kept⟩ := span?_plain other ahead found
    exact ih kept before (new.append plain)
  | case7 fuel t rest brackets items found open_ closing ih =>
    refine ih (List.forall_mem_cons.mp ahead).2 before (plain.cons ?_)
    unfold ofToken
    split <;> simp [toEvents, NoMath]

theorem noMathIn_resolve (scope : Scope) {tokens : List Token} (plain : NoDollar tokens) :
    NoMathIn (resolve scope tokens) :=
  noMathIn_nest (noMathIn_resolveFrom plain (fun _ none => absurd none List.not_mem_nil) .nil)

end Inline

namespace Document

variable {setting : Setting}

private theorem noMath_inlineEvents (off : setting.options.math = false) (inCell : Bool)
    (content : Content) : NoMath (inlineEvents setting inCell content) :=
  Inline.noMath_allToEvents.mpr (Inline.noMathIn_resolve _ (noDollar_ofChars off content.source))

private theorem noMath_within {tag : Tag} {inner : List Event} (plain : NoMath inner) :
    NoMath (within tag inner) := by
  intro expression display member
  simp [within, plain expression display] at member

private theorem noMath_flatMap {α : Type} {parts : List α} {eventsOf : α → List Event}
    (plain : ∀ part ∈ parts, NoMath (eventsOf part)) : NoMath (parts.flatMap eventsOf) := by
  intro expression display member
  obtain ⟨part, own, member⟩ := List.mem_flatMap.mp member
  exact plain part own expression display member

private theorem noMath_text (off : setting.options.math = false) (task : Option Bool)
    (content : Content) : NoMath (boxEvents task ++ inlineEvents setting false content) := by
  refine noMath_append.mpr ⟨?_, noMath_inlineEvents off false content⟩
  cases task <;> simp [boxEvents, NoMath]

private theorem noMath_cells (off : setting.options.math = false) (cells : List Content) :
    NoMath (cells.flatMap (cellEvents setting)) :=
  noMath_flatMap fun cell _ => noMath_within (noMath_inlineEvents off true cell)

mutual
theorem noMath_blockEvents (off : setting.options.math = false) (tight : Bool) (block : Block) :
    NoMath (blockEvents setting tight block) := by
  cases block with
  | paragraph task content =>
    simp only [blockEvents]
    split
    · exact noMath_text off task content
    · exact noMath_within (noMath_text off task content)
  | heading level task content => exact noMath_within (noMath_text off task content)
  | code info source =>
    refine noMath_within ?_
    split <;> simp [NoMath]
  | html source => exact noMath_within (by simp [NoMath])
  | rule => simp [blockEvents, NoMath]
  | table columns head rows =>
    refine noMath_within (noMath_append.mpr ⟨noMath_within (noMath_cells off head), ?_⟩)
    exact noMath_flatMap fun row _ => noMath_within (noMath_cells off row)
  | quote kind children => exact noMath_within (noMath_allEvents off false children)
  | list first tight items => exact noMath_within (noMath_allEvents off tight items)
  | item children => exact noMath_within (noMath_allEvents off tight children)
  | task checked => simp [blockEvents, NoMath]

theorem noMath_allEvents (off : setting.options.math = false) (tight : Bool) (blocks : List Block) :
    NoMath (allEvents setting tight blocks) := by
  cases blocks with
  | nil => simp [allEvents, NoMath]
  | cons block rest =>
    exact noMath_append.mpr ⟨noMath_blockEvents off tight block, noMath_allEvents off tight rest⟩
end

end Document

theorem noMath_events {options : Options} (off : options.math = false) (text : String) :
    NoMath (events options text) :=
  Document.noMath_allEvents off false _

end Mathdown.Markdown
