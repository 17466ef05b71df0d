import Mathdown.Proofs.Config.Expansion
import Mathdown.Proofs.Config.Settings
import Mathdown.Proofs.FileTree.Routes

namespace Mathdown.Config

open FileTree (IsName Place route)
open Toml (Value)
open Variables (Environment)

variable {α : Type} {parse : Toml.Parser} {environment : Environment} {tree : FileTree} {current : Place}
  {named file : Option String} {overrides : ConfigOverrides} {path directory : String}
  {document : Value} {raw c c' : Config} {e : ConfigError}

private theorem source_discover? (tree : FileTree) (current : Place) :
    Source tree current none (discover? tree current) := by
  unfold discover?
  cases found : (((List.range (current.length + 1)).map fun up =>
      current.take (current.length - up) ++ [fileName]).find? tree.isFile) with
  | none =>
    rw [List.find?_eq_none] at found
    refine .nowhere fun directory above has => ?_
    refine found (directory ++ [fileName]) (List.mem_map.mpr ?_) has
    have length := above.length_le
    refine ⟨current.length - directory.length, List.mem_range.mpr (by omega), ?_⟩
    rw [Nat.sub_sub_self length, ← List.prefix_iff_eq_take.mp above]
  | some place =>
    obtain ⟨has, i, bound, at_, before⟩ := List.find?_eq_some_iff_getElem.mp found
    simp only [List.length_map, List.length_range] at bound
    simp only [List.getElem_map, List.getElem_range] at at_ before
    subst at_
    refine .nearest (List.take_prefix _ _) has fun other above otherHas => ?_
    have length := above.length_le
    have late : ¬ current.length - other.length < i := by
      intro earlier
      have without := before _ earlier
      rw [Nat.sub_sub_self length, ← List.prefix_iff_eq_take.mp above, otherHas] at without
      cases without
    refine List.prefix_of_prefix_length_le above (List.take_prefix _ _) ?_
    rw [List.length_take]
    omega

private theorem Source.unique {other : Option String} (source : Source tree current named file)
    (again : Source tree current named other) : file = other := by
  cases source with
  | named stands =>
    cases again
    rfl
  | nearest above has nearest =>
    cases again with
    | nearest above' has' nearest' =>
      have first := nearest _ above' has'
      have second := nearest' _ above has
      rw [first.eq_of_length_le second.length_le]
    | nowhere lacking => exact absurd has (lacking _ above)
  | nowhere lacking =>
    cases again with
    | nearest above has nearest => exact absurd has (lacking _ above)
    | nowhere lacking => rfl

private theorem ofTree_of_file (source : Source tree current named (some path)) :
    ofTree environment tree current named parse = ofFile environment tree current path parse := by
  cases named with
  | some other =>
    cases source with
    | named stands =>
      obtain ⟨place, node, resolved, found⟩ := stands
      simp [ofTree, resolved, found]
  | none =>
    have found := (source_discover? tree current).unique source
    simp only [ofTree, found]

private theorem ofTree_of_nowhere (source : Source tree current named none) :
    ofTree environment tree current named parse = .ok {} := by
  cases named with
  | some other => cases source
  | none =>
    have found := (source_discover? tree current).unique source
    simp only [ofTree, found]

private theorem ofTree_of_missing (missing : ¬Stands tree current path) :
    ofTree environment tree current (some path) parse = .error (.notFound path) := by
  cases resolved : tree.resolve current path with
  | error e => simp only [ofTree, resolved]
  | ok place =>
    cases found : tree.find? place with
    | none => simp only [ofTree, resolved, found, Option.isSome_none, Bool.false_eq_true, if_false]
    | some node => exact absurd ⟨place, node, resolved, found⟩ missing

private theorem expand_eq_error_iff :
    raw.expand environment = .error e ↔
      raw.texts.mapM (fun text => expandField environment text.1 text.2) = .error e := by
  have done {β : Type} (b : β) : ¬(pure b : Except ConfigError β) = .error e :=
    fun same => by cases same
  rw [expand, texts, List.mapM_append, List.mapM_cons, List.mapM_map, List.mapM_map]
  simp only [bind_eq_error_iff, done, and_false, exists_false, or_false, Function.comp_def]
  cases raw.cacheDir with
  | none => simp [pure, Except.pure]
  | some dir =>
    simp only [Option.mapM_some, Option.toList_some, List.mapM_cons, List.mapM_nil]
    cases expandField environment "cache.dir" dir with
    | error e' => simp [bind, Except.bind, Functor.map, Except.map]
    | ok d => simp [pure, Except.pure, bind, Except.bind, Functor.map, Except.map]

/-- What a configuration comes to that is read from a file. -/
def settled (path : String) (c : Config) : Config :=
  { c with cacheDir := c.cacheDir.map (FileTree.join (directoryOf path)), file := some path }

private theorem exists_of_expand (expanded : raw.expand environment = .ok c) :
    ∃ cacheDir program args, raw.cacheDir.mapM (expandField environment "cache.dir") = .ok cacheDir ∧
      expandField environment "math.fallback_command" raw.fallback.program = .ok program ∧
      raw.fallback.args.mapM (expandField environment "math.fallback_args") = .ok args ∧
      c = { raw with cacheDir, fallback := ⟨program, args⟩ } := by
  unfold expand at expanded
  cases dir : raw.cacheDir.mapM (expandField environment "cache.dir") with
  | error e =>
    rw [dir] at expanded
    cases expanded
  | ok cacheDir =>
    rw [dir] at expanded
    cases command : expandField environment "math.fallback_command" raw.fallback.program with
    | error e =>
      rw [command] at expanded
      cases expanded
    | ok program =>
      rw [command] at expanded
      cases arguments : raw.fallback.args.mapM (expandField environment "math.fallback_args") with
      | error e =>
        rw [arguments] at expanded
        cases expanded
      | ok args =>
        rw [arguments] at expanded
        cases expanded
        exact ⟨cacheDir, program, args, rfl, rfl, rfl, rfl⟩

private theorem settle_of_expand (expanded : raw.expand environment = .ok c) (setting : Field α) :
    setting.settle environment (directoryOf path) (setting.get raw) =
      .ok (setting.get (c.settled path)) := by
  obtain ⟨cacheDir, program, args, dir, command, arguments, rfl⟩ := exists_of_expand expanded
  cases setting with
  | cacheDir => exact congrArg (Option.map _ <$> ·) dir
  | program => exact command
  | args => exact arguments
  | _ => rfl

private theorem ofFile_of_unread {e : FileError} (read : tree.readTextAt current path = .error e) :
    ofFile environment tree current path parse = .error (.file e) := by
  rw [ofFile, read]
  rfl

private theorem ofFile_of_unreadable {text : String} {e : Toml.ReadError}
    (read : tree.readTextAt current path = .ok text) (parsed : parse text = .error e) :
    ofFile environment tree current path parse = .error (.unreadable e) := by
  rw [ofFile, read]
  change (do let c ← ofToml environment _ text parse; _) = _
  rw [ofToml, parsed]
  rfl

private theorem ofFile_of_holds (holds : HoldsDocument parse tree current path document) :
    ofFile environment tree current path parse = (do
      let c ← (decode document).mapError .unfit
      settled path <$> c.expand environment) := by
  obtain ⟨text, read, parsed⟩ := holds
  rw [ofFile, read]
  change (do let c ← ofToml environment _ text parse; _) = _
  rw [ofToml, parsed]
  change (do let c ← (do let c ← (decode document).mapError _; _); _) = _
  cases (decode document).mapError ConfigError.unfit with
  | error e => rfl
  | ok c =>
    change (do let c ← (do let c ← c.expand environment; _); _) = settled path <$> c.expand environment
    cases c.expand environment <;> rfl

private theorem ofFile_of_unfit {e : Toml.DecodeError}
    (holds : HoldsDocument parse tree current path document)
    (decoded : decode document = .error e) :
    ofFile environment tree current path parse = .error (.unfit e) := by
  rw [ofFile_of_holds holds, decoded]
  rfl

private theorem ofFile_of_decoded (holds : HoldsDocument parse tree current path document)
    (decoded : decode document = .ok raw) :
    ofFile environment tree current path parse = settled path <$> raw.expand environment := by
  rw [ofFile_of_holds holds, decoded]
  rfl

private theorem reading (parse : Toml.Parser) (tree : FileTree) (current : Place) (path : String) :
    (∃ e, tree.readTextAt current path = .error e) ∨
      (∃ text e, tree.readTextAt current path = .ok text ∧ parse text = .error e) ∨
      ∃ document, HoldsDocument parse tree current path document := by
  cases read : tree.readTextAt current path with
  | error e => exact .inl ⟨e, rfl⟩
  | ok text =>
    cases parsed : parse text with
    | error e => exact .inr (.inl ⟨text, e, rfl, parsed⟩)
    | ok document => exact .inr (.inr ⟨document, text, read, parsed⟩)

private theorem get_apply (setting : Field α) (overrides : ConfigOverrides) (c : Config) :
    setting.get (overrides.apply c) = (setting.override? overrides).getD (setting.get c) := by
  cases setting <;> rfl

private theorem settle_default (setting : Field α) (environment : Environment) (directory : String) :
    setting.settle environment directory (setting.get {}) = .ok (setting.get {}) := by
  cases setting with
  | program => exact (expandField_eq ..).trans (if_neg (by decide))
  | _ => rfl

private theorem fromFile_of_settle {setting : Field α} {a : α} (decoded : decode document = .ok raw)
    (settled : setting.settle environment directory (setting.get raw) = .ok a) :
    setting.FromFile environment directory document a := by
  have follows := setting.follows_decode decoded
  unfold Field.Follows at follows
  cases last : (setting.given document).getLast? with
  | some v =>
    rw [last] at follows
    exact .given last follows settled
  | none =>
    rw [last] at follows
    rw [follows, settle_default] at settled
    cases settled
    exact .default (List.getLast?_eq_none_iff.mp last)

private theorem Field.FromFile.unique {setting : Field α} {a b : α}
    (first : setting.FromFile environment directory document a)
    (second : setting.FromFile environment directory document b) : a = b := by
  cases first with
  | given given decoded settled =>
    cases second with
    | given given' decoded' settled' =>
      cases given.symm.trans given'
      cases decoded.symm.trans decoded'
      cases settled.symm.trans settled'
      rfl
    | default leftOut =>
      rw [leftOut] at given
      cases given
  | default leftOut =>
    cases second with
    | given given' _ _ =>
      rw [leftOut] at given'
      cases given'
    | default _ => rfl

private theorem eq_of_settings (file : c.file = c'.file)
    (settings : ∀ {α : Type} (setting : Field α), setting.get c = setting.get c') : c = c' := by
  obtain ⟨_, ⟨_, _, _⟩, _, ⟨_, _, _, _⟩, ⟨_, _⟩, _⟩ := c
  obtain ⟨_, ⟨_, _, _⟩, _, ⟨_, _, _, _⟩, ⟨_, _⟩, _⟩ := c'
  cases file
  cases settings .cacheEnabled
  cases settings .cacheHighlight
  cases settings .cacheMath
  cases settings .cacheResult
  cases settings .cacheDir
  cases settings .gfm
  cases settings .math
  cases settings .lineNumbers
  cases settings .maxNesting
  cases settings .program
  cases settings .args
  rfl

private theorem layered_of_nowhere (source : Source tree current named none) :
    Layered parse environment tree current named overrides (overrides.apply {}) :=
  .defaults source rfl fun setting => get_apply setting overrides {}

private theorem layered_of_expand (source : Source tree current named (some path))
    (holds : HoldsDocument parse tree current path document) (decoded : decode document = .ok raw)
    (expanded : raw.expand environment = .ok c) :
    Layered parse environment tree current named overrides (overrides.apply (c.settled path)) := by
  refine .ofFile source rfl holds decoded ?_ fun setting => ?_
  · rw [← exists_mapM_eq_ok_iff]
    cases given : raw.texts.mapM fun text => expandField environment text.1 text.2 with
    | ok values => exact ⟨values, rfl⟩
    | error e => cases (expand_eq_error_iff.mpr given).symm.trans expanded
  · rw [get_apply]
    cases setting.override? overrides with
    | some a => rfl
    | none => exact fromFile_of_settle decoded (settle_of_expand expanded setting)

private theorem ofTree_of_layered (layered : Layered parse environment tree current named overrides c) :
    ∃ below, ofTree environment tree current named parse = .ok below ∧ overrides.apply below = c := by
  cases layered with
  | defaults source file settings =>
    refine ⟨{}, ofTree_of_nowhere source, eq_of_settings file.symm fun setting => ?_⟩
    rw [get_apply, settings]
  | @ofFile path document raw source file holds decoded expanded settings =>
    cases given : raw.expand environment with
    | error e =>
      obtain ⟨values, all⟩ := exists_mapM_eq_ok_iff.mpr expanded
      cases (expand_eq_error_iff.mp given).symm.trans all
    | ok below =>
      refine ⟨below.settled path, ?_, eq_of_settings file.symm fun setting => ?_⟩
      · rw [ofTree_of_file source, ofFile_of_decoded holds decoded, given]
        rfl
      · have own := settings setting
        rw [get_apply]
        cases top : setting.override? overrides with
        | some a =>
          rw [top] at own
          exact own.symm
        | none =>
          rw [top] at own
          exact (fromFile_of_settle decoded (settle_of_expand given setting)).unique own

private def checked (c : Config) : Except ConfigError Config := do
  c.validate
  return c

private theorem checked_eq_ok_iff : checked c = .ok c' ↔ c = c' ∧ Valid c := by
  unfold checked validate
  cases program : Text.allBlank c.fallback.program with
  | true =>
    exact iff_of_false (fun same => by cases same) fun ⟨_, valid⟩ =>
      Bool.noConfusion (program.symm.trans valid.program)
  | false =>
    by_cases none : c.markdown.maxNesting = 0
    · rw [if_neg Bool.false_ne_true, if_pos none]
      exact iff_of_false (fun same => by cases same) fun ⟨_, valid⟩ =>
        absurd none (Nat.ne_of_gt valid.maxNesting)
    · rw [if_neg Bool.false_ne_true, if_neg none]
      refine ⟨fun same => ⟨Except.ok.inj same, program, Nat.pos_of_ne_zero none⟩, ?_⟩
      rintro ⟨rfl, -⟩
      rfl

private theorem checked_eq_error_iff :
    checked c = .error e ↔
      Text.allBlank c.fallback.program = true ∧ e = .invalid "math.fallback_command cannot be empty" ∨
      (Text.allBlank c.fallback.program = false ∧ c.markdown.maxNesting = 0) ∧
        e = .invalid "markdown.max_nesting must be greater than 0" := by
  have done : ¬(pure c : Except ConfigError Config) = .error e := fun same => by cases same
  simp only [checked, bind_eq_error_iff, done, and_false, exists_false, or_false, validate]
  cases Text.allBlank c.fallback.program with
  | true => simp [eq_comm]
  | false =>
    by_cases none : c.markdown.maxNesting = 0
    · simp [none, eq_comm]
    · simp [none]

private theorem load_of_ofTree (made : ofTree environment tree current named parse = .ok c) :
    load environment tree current named overrides parse = checked (overrides.apply c) := by
  rw [load, made]
  rfl

private theorem load_of_failed (failed : ofTree environment tree current named parse = .error e) :
    load environment tree current named overrides parse = .error e := by
  rw [load, failed]
  rfl

private theorem load_of_layered (layered : Layered parse environment tree current named overrides c) :
    load environment tree current named overrides parse = checked c := by
  obtain ⟨below, made, rfl⟩ := ofTree_of_layered layered
  exact load_of_ofTree made

/-- Whether all layers are there with what a caller gives over them, or something stands in the way. -/
private def Accounted (parse : Toml.Parser) (environment : Environment) (tree : FileTree)
    (current : Place)
    (named : Option String) (overrides : ConfigOverrides) : Except ConfigError Config → Prop
  | .ok c => Layered parse environment tree current named overrides (overrides.apply c)
  | .error e => Obstacle parse environment tree current named overrides e

private theorem accounted_of_source (source : Source tree current named file) :
    Accounted parse environment tree current named overrides
      (ofTree environment tree current named parse) := by
  cases file with
  | none =>
    rw [ofTree_of_nowhere source]
    exact layered_of_nowhere source
  | some path =>
    rw [ofTree_of_file source]
    rcases reading parse tree current path with ⟨e, read⟩ | ⟨text, e, read, parsed⟩ | ⟨document, holds⟩
    · rw [ofFile_of_unread read]
      exact .file source read
    · rw [ofFile_of_unreadable read parsed]
      exact .unreadable source read parsed
    · cases decoded : decode document with
      | error e =>
        rw [ofFile_of_unfit holds decoded]
        exact .unfit source holds decoded
      | ok raw =>
        rw [ofFile_of_decoded holds decoded]
        cases expanded : raw.expand environment with
        | error e =>
          obtain ⟨front, ⟨field, text⟩, back, order, before, failed⟩ :=
            mapM_eq_error_iff.mp (expand_eq_error_iff.mp expanded)
          exact .unset source holds decoded order before failed
        | ok c => exact layered_of_expand source holds decoded expanded

private theorem accounted_ofTree (parse : Toml.Parser) (environment : Environment)
    (tree : FileTree) (current : Place)
    (named : Option String) (overrides : ConfigOverrides) :
    Accounted parse environment tree current named overrides
      (ofTree environment tree current named parse) := by
  cases named with
  | none => exact accounted_of_source (source_discover? tree current)
  | some path =>
    by_cases stands : Stands tree current path
    · exact accounted_of_source (.named stands)
    · rw [ofTree_of_missing stands]
      exact .notFound rfl stands

private theorem ofTree_of_expansion {field text : String} {front back : List (String × String)}
    (source : Source tree current named (some path)) (holds : HoldsDocument parse tree current path document)
    (decoded : decode document = .ok raw) (order : raw.texts = front ++ (field, text) :: back)
    (before : ∀ other ∈ front, ∃ given, expandField environment other.1 other.2 = .ok given)
    (failed : expandField environment field text = .error e) :
    ofTree environment tree current named parse = .error e := by
  rw [ofTree_of_file source, ofFile_of_decoded holds decoded,
    expand_eq_error_iff.mpr (mapM_eq_error_iff.mpr ⟨front, _, back, order, before, failed⟩)]
  rfl

private theorem load_outcome (parse : Toml.Parser) (environment : Environment) (tree : FileTree)
    (current : Place)
    (named : Option String) (overrides : ConfigOverrides) :
    (∃ e, Obstacle parse environment tree current named overrides e ∧
      load environment tree current named overrides parse = .error e) ∨
    ∃ c, Layered parse environment tree current named overrides c ∧
      load environment tree current named overrides parse = checked c := by
  have accounted := accounted_ofTree parse environment tree current named overrides
  cases made : ofTree environment tree current named parse with
  | error e =>
    rw [made] at accounted
    exact .inl ⟨e, accounted, load_of_failed made⟩
  | ok below =>
    rw [made] at accounted
    exact .inr ⟨overrides.apply below, accounted, load_of_ofTree made⟩

private theorem load_eq_ok_iff :
    load environment tree current named overrides parse = .ok c ↔
      Layered parse environment tree current named overrides c ∧ Valid c := by
  constructor
  · intro loaded
    rcases load_outcome parse environment tree current named overrides with
      ⟨e, -, failed⟩ | ⟨c', layered, come⟩
    · cases failed.symm.trans loaded
    · obtain ⟨rfl, valid⟩ := checked_eq_ok_iff.mp (come.symm.trans loaded)
      exact ⟨layered, valid⟩
  · rintro ⟨layered, valid⟩
    exact (load_of_layered layered).trans (checked_eq_ok_iff.mpr ⟨rfl, valid⟩)

private theorem load_of_obstacle (obstacle : Obstacle parse environment tree current named overrides e) :
    load environment tree current named overrides parse = .error e := by
  cases obstacle with
  | notFound isNamed missing =>
    subst isNamed
    exact load_of_failed (ofTree_of_missing missing)
  | file source read =>
    exact load_of_failed ((ofTree_of_file source).trans (ofFile_of_unread read))
  | unreadable source read parsed =>
    exact load_of_failed ((ofTree_of_file source).trans (ofFile_of_unreadable read parsed))
  | unfit source holds decoded =>
    exact load_of_failed ((ofTree_of_file source).trans (ofFile_of_unfit holds decoded))
  | unset source holds decoded order before failed =>
    exact load_of_failed (ofTree_of_expansion source holds decoded order before failed)
  | blank layered blank =>
    exact (load_of_layered layered).trans (checked_eq_error_iff.mpr (.inl ⟨blank, rfl⟩))
  | shallow layered program none =>
    exact (load_of_layered layered).trans (checked_eq_error_iff.mpr (.inr ⟨⟨program, none⟩, rfl⟩))

private theorem load_eq_error_iff :
    load environment tree current named overrides parse = .error e ↔
      Obstacle parse environment tree current named overrides e := by
  refine ⟨fun failed => ?_, load_of_obstacle⟩
  rcases load_outcome parse environment tree current named overrides with
    ⟨e', obstacle, failed'⟩ | ⟨c, layered, come⟩
  · cases failed'.symm.trans failed
    exact obstacle
  · rcases checked_eq_error_iff.mp (come.symm.trans failed) with
      ⟨blank, rfl⟩ | ⟨⟨program, none⟩, rfl⟩
    · exact .blank layered blank
    · exact .shallow layered program none

private theorem isName_fileName : IsName fileName where
  nonempty := by decide
  notStay := by decide
  notUp := by decide
  single := by decide

/--
What comes out of loading has all layers and makes sense, and only that does; an error is the first thing
that stands in the way. Unless a file is named there is exactly one to be read, or none. A file that is
found in a directory is read there, and the paths in it start there.
-/
theorem load_layers (parse : Toml.Parser) (environment : Environment) (tree : FileTree) (current : Place)
    (named : Option String) (overrides : ConfigOverrides) :
    (∀ c, load environment tree current named overrides parse = .ok c ↔
      Layered parse environment tree current named overrides c ∧ Valid c) ∧
    (∀ e, load environment tree current named overrides parse = .error e ↔
      Obstacle parse environment tree current named overrides e) ∧
    (∃ file, Source tree current none file ∧ ∀ other, Source tree current none other → other = file) ∧
    ∀ directory, tree.Reaches directory → (∀ name ∈ directory, IsName name) →
      tree.readTextAt current (route (directory ++ [fileName])) =
          tree.readText (directory ++ [fileName]) ∧
        directoryOf (route (directory ++ [fileName])) = route directory := by
  refine ⟨fun c => load_eq_ok_iff, fun e => load_eq_error_iff, ?_, fun directory reaches proper => ?_⟩
  · have source := source_discover? tree current
    exact ⟨_, source, fun other again => again.unique source⟩
  · refine ⟨FileTree.readTextAt_route reaches proper isName_fileName current, ?_⟩
    rw [directoryOf, FileTree.parent?_route proper isName_fileName]
    rfl

end Mathdown.Config
