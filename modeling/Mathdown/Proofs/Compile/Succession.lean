import Mathdown.Proofs.Compile.Captures
import Mathdown.Proofs.Compile.Depth
import Mathdown.Proofs.Compile.HeadingIds
import Mathdown.Proofs.Markdown.Shape

namespace Mathdown

/-- The kind of alert that a block quote is, if the element is one. -/
def Tag.quote? : Tag → Option (Option AlertKind)
  | .blockQuote kind => some kind
  | _ => none

namespace Event

/-- Whether what an event does depends on the table that it stands in. -/
def isTablePart : Event → Bool
  | .start tag => tag == .tableHead || tag == .tableRow || tag == .tableCell
  | .stop tag => tag == .tableHead || tag == .tableCell
  | _ => false

/-- Whether no part of a table comes before the start of a table. -/
def tablesFirst : List Event → Bool
  | [] | .start (.table _) :: _ => true
  | event :: events => !event.isTablePart && tablesFirst events

theorem tablesFirst_cons {event : Event} {events : List Event} (outside : event.isTablePart = false)
    (others : tablesFirst events = true) : tablesFirst (event :: events) = true := by
  unfold tablesFirst
  split
  · rfl
  · rfl
  · rename_i same
    cases same
    rw [outside, others]
    rfl

theorem tablesFirst_of_cons {event : Event} {events : List Event}
    (first : tablesFirst (event :: events) = true) (other : ∀ columns, event ≠ .start (.table columns)) :
    event.isTablePart = false ∧ tablesFirst events = true := by
  unfold tablesFirst at first
  split at first
  · rename_i same
    cases same
  · rename_i same
    cases same
    exact absurd rfl (other _)
  · rename_i same
    cases same
    rwa [Bool.and_eq_true, Bool.not_eq_true'] at first

/-- Outside tables, shaped events begin tables before they have parts of them. -/
theorem Shaped.tablesFirst {place : Place} {events : List Event} (shaped : Shaped place events)
    (outside : place ≠ .rows ∧ place ≠ .cells) {rest : List Event} (others : tablesFirst rest = true) :
    tablesFirst (events ++ rest) = true := by
  induction shaped generalizing rest with
  | nil place => exact others
  | @leaf place event _ held _ ih =>
    have apart : event.isTablePart = false := by
      cases event with
      | start tag | stop tag => cases place <;> cases held
      | _ => rfl
    exact tablesFirst_cons apart (ih outside others)
  | @element place inner tag content rest' opens _ _ ihWithin ih =>
    have within : inner ≠ .rows ∧ inner ≠ .cells := by
      cases place with
      | rows => exact absurd rfl outside.1
      | cells => exact absurd rfl outside.2
      | _ => cases tag <;> cases opens <;> exact ⟨nofun, nofun⟩
    have apart : isTablePart (.start tag) = false ∧ isTablePart (.stop tag.toEnd) = false := by
      cases place with
      | rows => exact absurd rfl outside.1
      | cells => exact absurd rfl outside.2
      | _ => cases tag <;> first | exact ⟨rfl, rfl⟩ | cases opens
    have behind := tablesFirst_cons apart.2 (ih outside others)
    simpa using tablesFirst_cons apart.1 (ihWithin within behind)
  | table columns _ _ _ _ _ _ => rfl

end Event

namespace Compile

/-- What a state tells of the tables and block quotes around an event. -/
def State.around (s : State) : TableCursor × List (Option AlertKind) := (s.table, s.quotes)

def Act.around (around : TableCursor × List (Option AlertKind)) :
    Act → TableCursor × List (Option AlertKind)
  | .setTable table => (table, around.2)
  | .setQuotes quotes => (around.1, quotes)
  | _ => around

theorem Act.around_perform (act : Act) (s : State) :
    (act.perform s).around = act.around s.around := by
  cases act with
  | inline html =>
    simp only [perform, State.writeInline]
    split
    · rfl
    · split <;> rfl
  | token id =>
    simp only [perform, State.writeToken]
    split <;> rfl
  | noteText text =>
    simp only [perform, State.noteText]
    split <;> rfl
  | noteAlt text =>
    simp only [perform, State.noteAlt]
    split <;> rfl
  | endHeading =>
    simp only [perform, State.finishHeading]
    split <;> rfl
  | _ => rfl

theorem Act.around_performAll (acts : List Act) (s : State) :
    (performAll acts s).around = acts.foldl Act.around s.around := by
  induction acts generalizing s with
  | nil => rfl
  | cons act acts ih => rw [performAll_cons, ih, around_perform, List.foldl_cons]

theorem Act.table_performAll (acts : List Act) {s t : State} (same : t.table = s.table) :
    (performAll acts t).table = (performAll acts s).table := by
  induction acts generalizing s t with
  | nil => exact same
  | cons act acts ih =>
    refine ih ((congrArg Prod.fst (act.around_perform t)).trans (Eq.trans ?_
      (congrArg Prod.fst (act.around_perform s)).symm))
    cases act <;> first | exact same | rfl

def quotesAfter (quotes : List (Option AlertKind)) : Event → List (Option AlertKind)
  | .start (.blockQuote kind) => kind :: quotes
  | .stop .blockQuote => quotes.tail
  | _ => quotes

theorem quotes_ofEvent (options : CompilerOptions) (s : State) (answer : Answer) (event : Event) :
    (Act.performAll (Act.ofEvent options s answer event) s).quotes = quotesAfter s.quotes event := by
  refine (congrArg Prod.snd (Act.around_performAll _ s)).trans ?_
  cases event with
  | start tag => cases tag <;> rfl
  | stop tag =>
    cases tag with
    | codeBlock => cases answer <;> rfl
    | blockQuote =>
      simp only [Act.ofEvent, Act.leaving]
      split
      · rename_i opened
        rw [quotesAfter, opened]
        rfl
      · rfl
    | image =>
      simp only [Act.ofEvent, Act.leaving]
      split <;> rfl
    | _ => rfl
  | text text =>
    simp only [Act.ofEvent, Act.showing]
    split <;> try split
    all_goals rfl
  | code source =>
    simp only [Act.ofEvent, Act.showing]
    split <;> rfl
  | math expression display =>
    simp only [Act.ofEvent]
    split
    · rfl
    · cases answer <;> rfl
  | softBreak =>
    simp only [Act.ofEvent]
    split <;> rfl
  | _ => rfl

/-- While elements nest, the open block quotes are those of the open elements. -/
theorem quotesAfter_eq {admits : Event.Admission} {stack next : List Tag} {event : Event}
    (opened : Event.stackAfter admits stack event = some next) :
    quotesAfter (stack.filterMap Tag.quote?) event = next.filterMap Tag.quote? := by
  cases event with
  | start tag =>
    obtain ⟨-, rfl⟩ := Event.stackAfter_start_iff.mp opened
    cases tag <;> rfl
  | stop closing =>
    obtain ⟨tag, rfl, rfl⟩ := Event.stackAfter_stop_iff.mp opened
    cases tag <;> rfl
  | _ =>
    cases opened
    rfl

/-- Whether nothing is open, nothing is being collected and nothing is written. -/
def State.Idle (s : State) : Prop := s = { State.initial with table := s.table, slugs := s.slugs }

theorem State.Idle.isHeld_eq_false {s : State} (idle : s.Idle) (capture : Capture) :
    capture.isHeld s = false := by
  rw [idle]
  cases capture <;> rfl

/-- A state without anything but the counts of some headings' slugs. -/
def State.counting (slugs : List String) : State where
  slugs := slugs.foldl (fun counted slug => counted.insert slug (counted.getD slug 0 + 1)) ∅

theorem State.counts_counting (slugs : List String) : (State.counting slugs).Counts slugs := by
  have counted (before : Std.HashMap String Nat) (slug : String) :
      (slugs.foldl (fun counted slug => counted.insert slug (counted.getD slug 0 + 1)) before).getD
        slug 0 = before.getD slug 0 + slugs.count slug := by
    induction slugs generalizing before with
    | nil => rfl
    | cons first rest ih =>
      rw [List.foldl_cons, ih, Std.HashMap.getD_insert, List.count_cons]
      by_cases same : first = slug
      · subst same
        simp only [beq_self_eq_true, if_true]
        omega
      · simp [same]
  intro slug
  exact (counted ∅ slug).trans (by simp)

/-- Whether states are the same but for their tables, and count slugs alike. -/
inductive State.Resembles (s : State) : State → Prop
  | intro (table : TableCursor) (slugs : Std.HashMap String Nat)
      (alike : ∀ slug, slugs.getD slug 0 = s.slugs.getD slug 0) :
      Resembles s { s with table, slugs }

theorem State.Idle.resembles_counting {s : State} {slugs : List String} (idle : s.Idle)
    (counts : s.Counts slugs) : s.Resembles (.counting slugs) := by
  have alike (slug : String) := (counts_counting slugs slug).trans (counts slug).symm
  obtain ⟨output, spans, depth, code, image, heading, table, quotes, counted⟩ := s
  simp only [Idle, State.initial, State.mk.injEq] at idle
  obtain ⟨rfl, rfl, rfl, rfl, rfl, rfl, -, rfl, -⟩ := idle
  exact .intro _ _ alike

namespace State.Resembles

variable {s t : State}

theorem setDepth (like : s.Resembles t) (depth : Nat) :
    State.Resembles { s with depth } { t with depth } := by
  obtain ⟨table, slugs, alike⟩ := like
  exact .intro table slugs alike

theorem finishHeading (like : s.Resembles t) : s.finishHeading.Resembles t.finishHeading := by
  obtain ⟨table, slugs, alike⟩ := like
  obtain ⟨output, spans, depth, code, image, heading, cursor, quotes, counted⟩ := s
  cases heading with
  | none => exact .intro table slugs alike
  | some heading =>
    simp only [State.finishHeading, State.headingId, State.write, alike]
    refine .intro table _ fun slug => ?_
    simp only [Std.HashMap.getD_insert, alike]

theorem perform (like : s.Resembles t) (act : Act) : (act.perform s).Resembles (act.perform t) := by
  cases act with
  | endHeading => exact like.finishHeading
  | inline html =>
    obtain ⟨table, slugs, alike⟩ := like
    simp only [Act.perform, State.writeInline]
    split
    · exact .intro table slugs alike
    · split <;> exact .intro table slugs alike
  | token id =>
    obtain ⟨table, slugs, alike⟩ := like
    simp only [Act.perform, State.writeToken]
    split <;> exact .intro table slugs alike
  | noteText text =>
    obtain ⟨table, slugs, alike⟩ := like
    simp only [Act.perform, State.noteText]
    split <;> exact .intro table slugs alike
  | noteAlt text =>
    obtain ⟨table, slugs, alike⟩ := like
    simp only [Act.perform, State.noteAlt]
    split <;> exact .intro table slugs alike
  | _ =>
    obtain ⟨table, slugs, alike⟩ := like
    exact .intro _ slugs alike

theorem performAll (like : s.Resembles t) (acts : List Act) :
    (Act.performAll acts s).Resembles (Act.performAll acts t) := by
  induction acts generalizing s t with
  | nil => exact like
  | cons act acts ih => exact ih (like.perform act)

theorem question_eq (like : s.Resembles t) (event : Event) :
    Question.ofEvent t event = Question.ofEvent s event := by
  obtain ⟨table, slugs, alike⟩ := like
  rfl

theorem acts_eq (like : s.Resembles t) {event : Event}
    (tables : t.table = s.table ∨ event.isTablePart = false) (options : CompilerOptions)
    (answer : Answer) : Act.ofEvent options t answer event = Act.ofEvent options s answer event := by
  obtain ⟨table, slugs, alike⟩ := like
  rcases tables with same | outside
  · obtain rfl : table = s.table := same
    rfl
  · cases event with
    | start tag =>
      cases tag with
      | tableHead | tableRow | tableCell => cases outside
      | _ => rfl
    | stop tag =>
      cases tag with
      | tableHead | tableCell => cases outside
      | _ => rfl
    | _ => rfl

end State.Resembles

end Compile

namespace Compiler

open Compile (Act Capture Moment Question State)

variable {σ : Type} {c : Compiler σ}

/-- Whether what the processors answer depends only on what they are asked. -/
def Steady (c : Compiler σ) : Prop :=
  ∀ w w' question, (c.answer w question).1 = (c.answer w' question).1

theorem Steady.answerTo_eq (steady : c.Steady) (w w' : σ) (question : Option Question) :
    (c.answerTo w' question).1 = (c.answerTo w question).1 := by
  cases question with
  | none => rfl
  | some question => exact steady w' w question

theorem next_resembles (steady : c.Steady) {event : Event} {s t : State} (like : s.Resembles t)
    (tables : t.table = s.table ∨ event.isTablePart = false) (w w' : σ) :
    (c.step event s w).1.Resembles (c.step event t w').1 ∧
      (t.table = s.table → (c.step event t w').1.table = (c.step event s w).1.table) := by
  rw [step_eq, step_eq, like.question_eq, steady.answerTo_eq w w', like.acts_eq tables]
  exact ⟨like.performAll _, Act.table_performAll _⟩

/--
Runs from states that resemble each other fail alike, ask the same, and end in states that resemble
each other, if no part of a table comes before a table begins or the tables are the same.
-/
theorem run_resembles (steady : c.Steady) {events : List Event} {s t : State} (like : s.Resembles t)
    (tables : t.table = s.table ∨ Event.tablesFirst events = true) (w w' : σ) :
    (c.run events t w').1 = (c.run events s w).1 ∧
      (c.run events s w).2.1.Resembles (c.run events t w').2.1 ∧
      c.questions events t w' = c.questions events s w := by
  induction events generalizing s t w w' with
  | nil => exact ⟨rfl, like, rfl⟩
  | cons event events ih =>
    have depth : t.depth = s.depth := by
      obtain ⟨table, slugs, alike⟩ := like
      rfl
    have deeper := like.setDepth (depthAfter s.depth event)
    have asked : (moment event t w').question? = (moment event s w).question? := by
      simp only [Moment.question?, moment, depth]
      exact deeper.question_eq event
    rw [run_cons, run_cons, questions_cons, questions_cons, asked]
    simp only [depth]
    split
    · exact ⟨rfl, deeper, rfl⟩
    · have reached : moment event t w' = ⟨event, { t with depth := depthAfter s.depth event }, w'⟩ := by
        rw [moment, depth]
      rw [reached]
      by_cases begins : ∃ columns, event = .start (.table columns)
      · -- What the table was before plays no part any more.
        obtain ⟨columns, rfl⟩ := begins
        have apart : Event.isTablePart (.start (.table columns)) = false := rfl
        obtain ⟨further, -⟩ := next_resembles steady deeper (.inr apart) w w'
        obtain ⟨error, left, questions⟩ := ih further (.inl rfl) w w'
        exact ⟨error, left, congrArg _ questions⟩
      · have apart (columns : List Alignment) : event ≠ .start (.table columns) :=
          fun same => begins ⟨columns, same⟩
        have first := tables.imp_right fun first => Event.tablesFirst_of_cons first apart
        obtain ⟨further, same⟩ := next_resembles steady deeper (first.imp_right And.left) w w'
        obtain ⟨error, left, questions⟩ :=
          ih further (first.imp same And.right) (c.next (moment event s w)).2 _
        exact ⟨error, left, congrArg _ questions⟩

theorem compile_resembles (steady : c.Steady) {events : List Event}
    (shaped : Event.Shaped .blocks events) {s t : State} (like : s.Resembles t) (w w' : σ) :
    (c.compile events t w').1 = (c.compile events s w).1 ∧
      c.questions events t w' = c.questions events s w := by
  have first : Event.tablesFirst (events ++ []) = true := shaped.tablesFirst ⟨nofun, nofun⟩ rfl
  rw [List.append_nil] at first
  obtain ⟨error, left, questions⟩ := run_resembles steady like (.inr first) w w'
  refine ⟨?_, questions⟩
  unfold compile
  generalize c.run events s w = ran at error left
  generalize c.run events t w' = ran' at error left
  obtain ⟨e, s', _⟩ := ran
  obtain ⟨e', t', _⟩ := ran'
  obtain rfl : e' = e := error
  obtain ⟨table, slugs, alike⟩ := left
  cases e' <;> rfl

theorem quotes_run (c : Compiler σ) {admits : Event.Admission} {events : List Event}
    {stack last : List Tag} (nested : Event.nests admits stack events = some last) {s : State} {w : σ}
    (opened : s.quotes = stack.filterMap Tag.quote?) (compiled : (c.run events s w).1 = none) :
    (c.run events s w).2.1.quotes = last.filterMap Tag.quote? := by
  induction events generalizing stack s w with
  | nil =>
    cases nested
    exact opened
  | cons event events ih =>
    rw [Event.nests_cons, Option.bind_eq_some_iff] at nested
    obtain ⟨next, enters, others⟩ := nested
    have goesOn := run_cons_of_eq_none compiled
    rw [goesOn] at compiled ⊢
    refine ih others ?_ compiled
    rw [Compiler.next, step_eq]
    exact (Compile.quotes_ofEvent ..).trans ((congrArg (Compile.quotesAfter · event) opened).trans
      (Compile.quotesAfter_eq enters))

/-- A document whose elements nest leaves nothing behind but a table and the counts of headings. -/
theorem idle_compile (c : Compiler σ) {admits : Event.Admission} {events : List Event}
    (nested : Event.WellNested admits events) {s : State} (idle : s.Idle) {w : σ}
    {document : CompiledDocument} (compiled : (c.compile events s w).1 = .ok document) :
    (c.compile events s w).2.1.Idle := by
  have start : s.depth = 0 ∧ s.quotes = [] ∧ ∀ capture : Capture, capture.isHeld s = false := by
    refine ⟨?_, ?_, idle.isHeld_eq_false⟩ <;> rw [idle] <;> rfl
  obtain ⟨shallow, unquoted, outside⟩ := start
  unfold compile at compiled ⊢
  generalize ran : c.run events s w = run at compiled ⊢
  obtain ⟨error, left, w'⟩ := run
  cases error with
  | some error => cases compiled
  | none =>
    have succeeds : (c.run events s w).1 = none := by rw [ran]
    have depth : left.depth = 0 := by
      have counted := c.depth_run succeeds
      have level := foldl_depthAfter nested (Nat.zero_le s.depth)
      rw [ran] at counted
      simp only [List.length_nil, shallow] at level
      rw [counted, shallow]
      exact level
    have quotes : left.quotes = [] := by
      have quoted := c.quotes_run nested unquoted succeeds
      rwa [ran] at quoted
    -- Nothing is open at the end, and only what is open is collected.
    have closed (capture : Capture) : capture.isHeld left = false := by
      have held := c.isHeld_run capture nested
        (fun held => absurd held (by rw [outside]; exact Bool.false_ne_true)) succeeds
      rw [ran] at held
      exact Bool.eq_false_iff.mpr fun held' => absurd (held held') Bool.false_ne_true
    have code : left.code = none := by simpa [Capture.isHeld] using closed .code
    have image : left.image = none := by simpa [Capture.isHeld] using closed .image
    have heading : left.heading = none := by simpa [Capture.isHeld] using closed .heading
    obtain ⟨output, spans, _, _, _, _, table, _, slugs⟩ := left
    cases depth
    cases quotes
    cases code
    cases image
    cases heading
    rfl

theorem compileAll_append (c : Compiler σ) (front back : List (List Event)) (s : State) (w : σ) :
    c.compileAll (front ++ back) s w =
      ((c.compileAll front s w).1 ++
        (c.compileAll back (c.compileAll front s w).2.1 (c.compileAll front s w).2.2).1,
        (c.compileAll back (c.compileAll front s w).2.1 (c.compileAll front s w).2.2).2) := by
  induction front generalizing s w with
  | nil => rfl
  | cons events rest ih =>
    simp only [List.cons_append, compileAll]
    rw [ih]

theorem length_compileAll (c : Compiler σ) (documents : List (List Event)) (s : State) (w : σ) :
    (c.compileAll documents s w).1.length = documents.length := by
  induction documents generalizing s w with
  | nil => rfl
  | cons events rest ih => simp [compileAll, ih]

/-- Documents whose elements nest leave nothing behind but a table and the counts of their headings. -/
theorem idle_compileAll (c : Compiler σ) {documents : List (List Event)}
    (shaped : ∀ events ∈ documents, Event.Shaped .blocks events) {s : State} {slugs : List String}
    (idle : s.Idle) (counts : s.Counts slugs) (w : σ)
    (compiled : ∀ result ∈ (c.compileAll documents s w).1, ∃ document, result = .ok document) :
    (c.compileAll documents s w).2.1.Idle ∧
      (c.compileAll documents s w).2.1.Counts (slugsAt (c.momentsAll documents s w) ++ slugs) := by
  induction documents generalizing s slugs w with
  | nil => exact ⟨idle, counts⟩
  | cons events rest ih =>
    obtain ⟨here, others⟩ := List.forall_mem_cons.mp shaped
    obtain ⟨⟨document, first⟩, later⟩ := List.forall_mem_cons.mp compiled
    have left := c.idle_compile (here.nests_freely []) idle first
    have counted := c.counts_compile events counts w
    obtain ⟨lastIdle, lastCounts⟩ := ih others left counted _ later
    refine ⟨lastIdle, lastCounts.perm ?_⟩
    have whole : slugsAt (c.momentsAll (events :: rest) s w) = slugsAt (c.moments events s w) ++
        slugsAt (c.momentsAll rest (c.compile events s w).2.1 (c.compile events s w).2.2) := by
      simp [slugsAt, momentsAll]
    -- The slugs of the first document have been counted before the others'.
    rw [whole, ← List.append_assoc]
    exact (((List.reverse_perm _).append_left _).trans List.perm_append_comm).append_right slugs

/--
Each of the documents that a compiler compiles in turn without failure comes out as it does from a
fresh compiler that has only counted the headings of the documents before it: its HTML and its
placeholders are the same, and the processors are asked the same.
-/
theorem compileAll_afresh (c : Compiler σ) (steady : c.Steady) {front back : List (List Event)}
    {events : List Event}
    (shaped : ∀ document ∈ front ++ events :: back, Event.Shaped .blocks document) (w : σ)
    (compiled : ∀ result ∈ (c.compileAll (front ++ events :: back) .initial w).1,
      ∃ document, result = .ok document) (v : σ) :
    let left := (c.compileAll front .initial w).2
    let fresh := State.counting (c.headingSlugs front w)
    (c.compileAll (front ++ events :: back) .initial w).1[front.length]? =
        some (c.compile events fresh v).1 ∧
      c.questions events left.1 left.2 = c.questions events fresh v := by
  intro left fresh
  simp only [List.forall_mem_append, List.forall_mem_cons] at shaped
  obtain ⟨earlier, here, -⟩ := shaped
  rw [compileAll_append] at compiled ⊢
  have succeeded := fun result member => compiled result (List.mem_append_left _ member)
  have none : State.initial.Counts [] := fun slug => by simp [State.initial]
  have fresh : State.initial.Idle := rfl
  obtain ⟨idle, counts⟩ := c.idle_compileAll earlier fresh none w succeeded
  rw [List.append_nil] at counts
  obtain ⟨same, questions⟩ :=
    compile_resembles steady here (idle.resembles_counting counts) left.2 v
  refine ⟨?_, questions.symm⟩
  rw [List.getElem?_append_right (Nat.le_of_eq (c.length_compileAll ..)), c.length_compileAll,
    Nat.sub_self]
  exact congrArg some same.symm

/-- A heading, an image in another and a table, and then a heading of the same name in an alert. -/
theorem compileAll_afresh_table :
    let c : Compiler Nat :=
      { processors :=
          { math := some fun n expression _ => (.inline ("<i>" ++ expression ++ "</i>"), n + 1) } }
    let first := Markdown.events ⟨true, true⟩ "# a\n\n![x ![y](u) z](v)\n\n|x|\n|:-:|\n|$k$|\n"
    let second := Markdown.events ⟨true, true⟩ "> [!NOTE]\n> # a\n> $k$\n"
    let left := (c.compileAll [first] .initial 0).2
    (c.compileAll [first, second] .initial 0).1[1]? =
        some (c.compile second (State.counting ["a"]) 7).1 ∧
      c.questions second left.1 left.2 = [.math "k" false] := by
  intro c first second left
  have read : first = [.start (.heading 1), .text "a", .stop (.heading 1), .start .paragraph,
      .start (.image "v" ""), .text "x ", .start (.image "u" ""), .text "y", .stop .image, .text " z",
      .stop .image, .stop .paragraph, .start (.table [.center]), .start .tableHead, .start .tableCell,
      .text "x", .stop .tableCell, .stop .tableHead, .start .tableRow, .start .tableCell,
      .math "k" false, .stop .tableCell, .stop .tableRow, .stop .table] := by
    decide +kernel
  have read' : second = [.start (.blockQuote (some .note)), .start (.heading 1), .text "a",
      .stop (.heading 1), .start .paragraph, .math "k" false, .stop .paragraph, .stop .blockQuote] := by
    decide +kernel
  have steady : c.Steady := by
    intro w w' question
    cases question <;> rfl
  have shaped : ∀ document ∈ [first] ++ second :: [], Event.Shaped .blocks document := by
    simp only [List.singleton_append, List.forall_mem_cons, List.not_mem_nil, false_imp_iff,
      implies_true, and_true]
    exact ⟨Markdown.shaped_events _ _, Markdown.shaped_events _ _⟩
  have compiled : ∀ result ∈ (c.compileAll ([first] ++ second :: []) .initial 0).1,
      ∃ document, result = .ok document := by
    have outcomes : (c.compileAll ([first] ++ second :: []) .initial 0).1.all Except.isOk = true := by
      rw [read, read']
      decide +kernel
    intro result member
    have ok := List.all_eq_true.mp outcomes result member
    cases result with
    | ok document => exact ⟨document, rfl⟩
    | error error => cases ok
  have slugs : c.headingSlugs [first] 0 = ["a"] := by
    rw [read]
    decide +kernel
  obtain ⟨afresh, questions⟩ := c.compileAll_afresh steady shaped 0 compiled 7
  rw [slugs] at afresh questions
  refine ⟨afresh, questions.trans ?_⟩
  rw [read']
  decide +kernel

end Compiler

end Mathdown
