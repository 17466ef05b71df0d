import Mathdown.Proofs.Cache.Apart
import Mathdown.Proofs.Render.Memory
import Mathdown.Proofs.Render.Splicing

/-!
Job scheduling does not show. Whichever jobs are polled in a round and in whatever order, a call is done
with the round in which the last of its jobs is done, and each job is started and done once. Neither its
HTML nor, where jobs that share a key find the same, what it leaves in the cache depends on the schedule.
-/

namespace Mathdown

open Cache (Key Memory)

namespace Render

variable {ρ ω : Type} {fallback : FallbackEngine ω} {s : Schedule} {turns : List PlaceholderId}
  {slots : List (Slot (Pending ω))} {jobs : List (PlaceholderId × Job ω)} {start : Memory}
  {w : World Memory ω × Journal} {plan : Plan} {round : Nat → List PlaceholderId}

theorem assemble?_of_done {slots : List (Slot ρ)} (done : ∀ slot ∈ slots, ∃ html, slot.state = .inr html)
    (document : CompiledDocument) : ∃ html, assemble? document slots = some html := by
  have all : ∃ results, slots.mapM
      (fun (s : Slot ρ) => s.result?.map fun html => (s.id, html)) = some results := by
    induction slots with
    | nil => exact ⟨[], rfl⟩
    | cons slot rest ih =>
      obtain ⟨⟨html, state⟩, others⟩ := List.forall_mem_cons.mp done
      obtain ⟨results, all⟩ := ih others
      refine ⟨(slot.id, html) :: results, ?_⟩
      rw [List.mapM_cons, all, Slot.result?, state]
      rfl
  obtain ⟨results, all⟩ := all
  rw [assemble?, Slot.results?, all]
  exact ⟨_, rfl⟩

/-- A job is done as soon as it has been polled more often than it is planned to be pending. -/
theorem Slot.Stands.done_iff {found : List Finding} {slot : Slot (Pending ω)}
    {job : PlaceholderId × Job ω}
    (stands : slot.Stands fallback (.planned plan round) turns found job) :
    (∃ html, slot.state = .inr html) ↔ plan job.1 < turns.count job.1 := by
  cases stands with
  | waiting same untried => simp [same, untried]
  | started same key work tried delay =>
    have pending : plan job.1 = _ := delay.symm
    simp [same, pending]
  | done same found delay =>
    have late : plan job.1 < turns.count job.1 := delay
    simp [same, late]

theorem Awaited.done_iff (awaited : Awaited fallback (.planned plan round) jobs start turns slots w) :
    (∀ slot ∈ slots, ∃ html, slot.state = .inr html) ↔ ∀ job ∈ jobs, plan job.1 < turns.count job.1 := by
  constructor
  · intro done job member
    obtain ⟨slot, present, own⟩ := exists_of_forall₂ awaited.stands.flip member
    exact own.done_iff.mp (done slot present)
  · intro done slot member
    obtain ⟨job, present, own⟩ := exists_of_forall₂ awaited.stands member
    exact own.done_iff.mpr (done job present)

theorem Awaited.mem_found_iff (awaited : Awaited fallback (.planned plan round) jobs start turns slots w)
    (id : PlaceholderId) :
    id ∈ w.2.found.map Finding.id ↔ id ∈ jobs.map Prod.fst ∧ plan id < turns.count id := by
  constructor
  · intro member
    obtain ⟨f, found, rfl⟩ := List.mem_map.mp member
    obtain ⟨present, job, mine, same, -⟩ := awaited.own f found
    obtain ⟨other, yours, own⟩ := exists_of_forall₂ awaited.stands present
    have late := own.done_iff.mp ⟨_, rfl⟩
    rw [← own.id] at late
    exact ⟨List.mem_map.mpr ⟨job, mine, same.symm⟩, late⟩
  · rintro ⟨member, late⟩
    obtain ⟨job, mine, rfl⟩ := List.mem_map.mp member
    obtain ⟨slot, present, own⟩ := exists_of_forall₂ awaited.stands.flip mine
    cases own with
    | waiting same untried => omega
    | started same key work tried delay =>
      have late : _ = plan job.1 := delay
      omega
    | done same found delay => exact List.mem_map.mpr ⟨_, found, rfl⟩

/-- What jobs find that come to given outcomes. -/
def findings (jobs : List (PlaceholderId × Job ω)) (values : PlaceholderId → Outcome) : List Finding :=
  jobs.map fun job => ⟨job.1, job.2.key, values job.1⟩

variable {values : PlaceholderId → Outcome}

theorem Awaited.found_perm (awaited : Awaited fallback s jobs start turns slots w)
    (distinct : (jobs.map Prod.fst).Nodup) (done : ∀ slot ∈ slots, ∃ html, slot.state = .inr html)
    (fixed : ∀ f ∈ w.2.found, f.outcome = values f.id) : w.2.found.Perm (findings jobs values) := by
  have same : (findings jobs values).map Finding.id = jobs.map Prod.fst := List.map_map ..
  refine (List.perm_ext_iff_of_nodup awaited.found.of_map (same ▸ distinct).of_map).mpr
    fun f => ⟨fun member => ?_, fun member => ?_⟩
  · obtain ⟨-, job, mine, id, key, -⟩ := awaited.own f member
    have value := fixed f member
    refine List.mem_map.mpr ⟨job, mine, ?_⟩
    cases f
    simp only at id key value
    rw [id, key, value, id]
  · obtain ⟨job, mine, rfl⟩ := List.mem_map.mp member
    obtain ⟨outcome, -, found⟩ := awaited.found_of_done done mine
    have value : outcome = values job.1 := fixed _ found
    rwa [← value]

private theorem slots_eq_of_stands {found : List Finding}
    (stands : List.Forall₂ (Slot.Stands fallback s turns found) slots jobs)
    (done : ∀ slot ∈ slots, ∃ html, slot.state = .inr html)
    (fixed : ∀ f ∈ found, f.outcome = values f.id) :
    slots = jobs.map fun job => ⟨job.1, .inr (values job.1).html⟩ := by
  induction stands with
  | nil => rfl
  | @cons slot job _ _ here _ ih =>
    obtain ⟨⟨html, state⟩, others⟩ := List.forall_mem_cons.mp done
    rw [List.map_cons, ← ih others]
    cases here with
    | waiting same => cases same ▸ state
    | started same => cases same ▸ state
    | @done outcome _ same member _ =>
      have value : outcome = values job.1 := fixed _ member
      rw [same, value]

end Render

namespace Renderer

open Render

variable {ω : Type}

theorem isDone_settle (document : CompiledDocument) (slots : List (Slot (Pending ω)))
    (key : Option Key) (w : World Memory ω × Journal) :
    (settle document slots key w).1.isDone = true ↔ ∀ slot ∈ slots, ∃ html, slot.state = .inr html := by
  rw [settle]
  constructor
  · intro done
    cases complete : assemble? document slots with
    | none =>
      rw [complete] at done
      cases done
    | some html => exact done_of_assemble? complete
  · intro done
    obtain ⟨html, complete⟩ := assemble?_of_done done document
    rw [complete]
    rfl

theorem journal_settle (document : CompiledDocument) (slots : List (Slot (Pending ω)))
    (key : Option Key) (w : World Memory ω × Journal) : (settle document slots key w).2.2 = w.2 := by
  rw [settle]
  split <;> rfl

/-- How far a call is whose jobs are pending for as long as planned, after some rounds. -/
structure OnSchedule (r : Renderer ω) (input : String) (o : Overrides ω) (w : World Memory ω)
    (ids : List PlaceholderId) (plan : Plan) (round : Nat → List PlaceholderId) (n : Nat) : Prop where
  /-- The call is done with the round in which the last of its jobs is done, or else with the first. -/
  completes : (r.scheduled input o w (.planned plan round) n).1.isDone = true ↔
    0 < n ∧ ∀ id ∈ ids, plan id < (Schedule.planned plan round).count id n
  /-- Those jobs have been started that have been polled, each of them once. -/
  started : (r.scheduled input o w (.planned plan round) n).2.2.started.Perm
    (ids.filter fun id => 0 < (Schedule.planned plan round).count id n)
  /-- Those are done that have been polled more often than they are pending, each of them once. -/
  found : ((r.scheduled input o w (.planned plan round) n).2.2.found.map Finding.id).Perm
    (ids.filter fun id => plan id < (Schedule.planned plan round).count id n)

/-- Whether all that the jobs of a call have found after some rounds is what they come to. -/
def FoundAs (r : Renderer ω) (input : String) (o : Overrides ω) (w : World Memory ω) (s : Schedule)
    (n : Nat) (values : PlaceholderId → Outcome) : Prop :=
  ∀ f ∈ (r.scheduled input o w s n).2.2.found, f.outcome = values f.id

variable {r : Renderer ω} {o : Overrides ω} {input : String} {w next : World Memory ω}
  {compiled : Compiled ω}

/-- A call with jobs is on schedule. -/
theorem onSchedule (passed : r.begin input o w = (.inr compiled, next)) (plan : Plan)
    (round : Nat → List PlaceholderId) (n : Nat) :
    r.OnSchedule input o w (compiled.jobs.map Prod.fst) plan round n := by
  have distinct := nodup_of_begin passed
  cases n with
  | zero =>
    exact ⟨by simp [scheduled, Stage.isDone], by simp [scheduled, Schedule.count, Schedule.polls],
      by simp [scheduled, Schedule.count, Schedule.polls]⟩
  | succ n =>
    obtain ⟨slots, v, same, awaited⟩ := scheduled_of_compiled passed distinct (.planned plan round) n
    refine ⟨?_, ?_, ?_⟩
    · rw [same, isDone_settle, awaited.done_iff, List.forall_mem_map]
      exact (and_iff_right n.succ_pos).symm
    · rw [same, journal_settle]
      refine (List.perm_ext_iff_of_nodup awaited.started (distinct.filter _)).mpr fun id => ?_
      rw [awaited.mem_started, List.mem_filter, decide_eq_true_iff]
      rfl
    · rw [same, journal_settle]
      refine (List.perm_ext_iff_of_nodup awaited.found (distinct.filter _)).mpr fun id => ?_
      rw [awaited.mem_found_iff, List.mem_filter, decide_eq_true_iff]
      rfl

private theorem exists_forall_served {s : Schedule} {plan : Plan} {ids : List PlaceholderId}
    (served : ∀ id ∈ ids, ∃ n, plan id < s.count id n) :
    ∃ n, 0 < n ∧ ∀ id ∈ ids, plan id < s.count id n := by
  induction ids with
  | nil => exact ⟨1, Nat.one_pos, nofun⟩
  | cons id rest ih =>
    obtain ⟨⟨m, here⟩, others⟩ := List.forall_mem_cons.mp served
    obtain ⟨n, some, late⟩ := ih others
    refine ⟨max m n, by omega, List.forall_mem_cons.mpr ⟨?_, fun other member => ?_⟩⟩
    · exact Nat.lt_of_lt_of_le here (s.count_mono id (Nat.le_max_left m n))
    · exact Nat.lt_of_lt_of_le (late other member) (s.count_mono other (Nat.le_max_right m n))

/-- Whoever waits for the jobs gets the call to its end, in the first round if no job is ever pending. -/
theorem exists_done_of_drives (passed : r.begin input o w = (.inr compiled, next)) {plan : Plan}
    {round : Nat → List PlaceholderId}
    (drives : (Schedule.planned plan round).Drives plan (compiled.jobs.map Prod.fst)) :
    (∃ n, (r.scheduled input o w (.planned plan round) n).1.isDone = true) ∧
      ((∀ id ∈ compiled.jobs.map Prod.fst, plan id = 0) →
        (r.scheduled input o w (.planned plan round) 1).1.isDone = true) := by
  refine ⟨?_, fun none => ?_⟩
  · obtain ⟨n, some, late⟩ := exists_forall_served drives.served
    exact ⟨n, (onSchedule passed plan round n).completes.mpr ⟨some, late⟩⟩
  · refine (onSchedule passed plan round 1).completes.mpr ⟨Nat.one_pos, fun id member => ?_⟩
    rw [none id member]
    exact List.count_pos_iff.mpr (drives.prompt none id member)

/-- On each schedule, the results are stored in the turn in which they come in, and then the document. -/
theorem scheduled_of_foundAs (passed : r.begin input o w = (.inr compiled, next))
    (values : PlaceholderId → Outcome) :
    ∃ html, ∀ s n, r.FoundAs input o w s n values → (r.scheduled input o w s n).1.isDone = true →
      (r.scheduled input o w s n).1 = .done (.ok html) ∧
        ∃ gs : List Finding, gs.Perm (findings compiled.jobs values) ∧ ∃ v : World Memory ω,
          v.cache = gs.foldl (fun m f => f.store m) next.cache ∧
          (r.scheduled input o w s n).2.1 = v.store compiled.key html := by
  have distinct := nodup_of_begin passed
  have all : ∀ slot ∈ compiled.jobs.map fun job => (⟨job.1, .inr (values job.1).html⟩ : Slot (Pending ω)),
      ∃ html, slot.state = .inr html := by
    rw [List.forall_mem_map]
    exact fun job _ => ⟨_, rfl⟩
  obtain ⟨html, whole⟩ := assemble?_of_done all compiled.document
  refine ⟨html, fun s n fixed done => ?_⟩
  cases n with
  | zero => cases done
  | succ n =>
    obtain ⟨slots, v, same, awaited⟩ := scheduled_of_compiled passed distinct s n
    rw [FoundAs, same, journal_settle] at fixed
    rw [same] at done ⊢
    have ended := (isDone_settle ..).mp done
    obtain rfl := slots_eq_of_stands awaited.stands ended fixed
    rw [settle, whole]
    exact ⟨rfl, v.2.found, awaited.found_perm distinct ended fixed, v.1, awaited.cache, rfl⟩

/-- Jobs that find the same whatever the engines have gone through find it on every schedule. -/
theorem foundAs_of_forall {values : PlaceholderId → Outcome}
    (passed : r.begin input o w = (.inr compiled, next))
    (fixed : ∀ job ∈ compiled.jobs, ∀ outcome, job.2.Finds r.engines.fallback outcome →
      outcome = values job.1) (s : Schedule) (n : Nat) : r.FoundAs input o w s n values := by
  cases n with
  | zero => exact fun f none => absurd none List.not_mem_nil
  | succ n =>
    obtain ⟨slots, v, same, awaited⟩ := scheduled_of_compiled passed (nodup_of_begin passed) s n
    rw [FoundAs, same, journal_settle]
    intro f member
    obtain ⟨-, job, mine, id, -, finds⟩ := awaited.own f member
    exact id ▸ fixed job mine _ finds

private theorem get?_answer (s : Setting ω) (options : CompilerOptions) (document : String)
    (p : Pass Memory ω) (question : Compile.Question) :
    Cache.get? ((⟨options, s.processors⟩ : Compiler (Pass Memory ω)).answer p question).2.world.cache
        (Key.result document).text = Cache.get? p.world.cache (Key.result document).text := by
  have apart {key : Key} (other : key.layer ≠ .result) : key.text ≠ (Key.result document).text :=
    fun same => other (Key.layer_eq_of_text same)
  cases question with
  | code language source =>
    change Cache.get? (s.code p language source).2.world.cache _ = _
    rcases s.code_memory p language source with ⟨html, same⟩ | ⟨-, same⟩
    · rw [same]
    · rw [same]
      rcases (s.engines.highlighter.highlight source (language.filter (· != "")) p.world.engines).1 with
        e | html | work
      · rfl
      · refine World.get?_store_of_ne (fun own keyed => ?_) _ html
        obtain ⟨-, rfl⟩ := Setting.codeKey_eq_some_iff.mp keyed
        exact apart nofun
      · rfl
  | math expression display =>
    change Cache.get? (s.math p expression display).2.world.cache _ = _
    rcases s.math_memory p expression display with ⟨html, -, same⟩ | ⟨-, same⟩
    · rw [same]
    · rw [same]
      rcases (s.engines.math.render expression display p.world.engines).1 with e | html
      · rfl
      · refine World.get?_store_of_ne (fun own keyed => ?_) _ html
        obtain ⟨-, rfl⟩ := Setting.mathKey_eq_some_iff.mp keyed
        exact apart nofun

theorem get?_begin (r : Renderer ω) (input : String) (o : Overrides ω) (w : World Memory ω)
    (document : String) :
    Cache.get? (r.begin input o w).2.cache (Key.result document).text =
      Cache.get? w.cache (Key.result document).text := by
  let same (m : Memory) : Prop :=
    Cache.get? m (Key.result document).text = Cache.get? w.cache (Key.result document).text
  have keeps (p : Pass Memory ω) (question : Compile.Question) (before : same p.world.cache) :
      same ((r.compiler Memory o).answer p question).2.world.cache :=
    (get?_answer (r.setting o) _ document p question).trans before
  exact begin_keeps keeps input rfl

variable {r : Renderer ω} {o : Overrides ω} {input : String} {w next : World Memory ω}

/-- The renderer with another fallback. -/
def withFallback (r : Renderer ω) (fallback : FallbackEngine ω) : Renderer ω :=
  { r with engines.fallback := fallback }

theorem begin_withFallback {γ : Type} [Cache γ] (fallback : FallbackEngine ω) (input : String)
    (o : Overrides ω) (w : World γ ω) :
    (r.withFallback fallback).begin input o w = r.begin input o w := rfl

/-- Polls the second of two math spans first, and has it pending for one poll. -/
def backwards : Schedule := .planned PlaceholderId.index fun _ => [⟨.math, 1⟩, ⟨.math, 0⟩]

theorem drives_backwards : backwards.Drives PlaceholderId.index [⟨.math, 0⟩, ⟨.math, 1⟩] where
  served := fun id member => ⟨2, by revert id; decide⟩
  prompt := fun _ => by decide

private def expression? : Job Unit → Option (String × Bool)
  | .highlight .. => none
  | .math expression display _ => some (expression, display)

private theorem answer_deferring {γ : Type} [Cache γ] {p : Pass γ Unit}
    (looked : ∀ key, p.world.find? key = (none, p.world)) (question : Compile.Question) :
    (deferring.compiler γ {}).answer p question =
      match question with
      | .code language source => p.deferCode (.highlight source
          (some (.highlight (language.filter (· != "")) source))
          ⟨1, fun e => (.ok ("<i>" ++ source ++ "</i>"), e)⟩)
      | .math expression display =>
        p.deferMath (.math expression display (some (.math expression display))) := by
  cases question with
  | code language source =>
    change (deferring.setting {}).code p language source = _
    simp only [Setting.code, looked]
    rfl
  | math expression display =>
    change (deferring.setting {}).math p expression display = _
    simp only [Setting.math, looked]
    rfl

private def SameJobs (p : Pass Memory Unit) (p' : Pass Cache.Null Unit) : Prop :=
  p.world = ⟨{}, ()⟩ ∧ p.code = p'.code ∧ p.math = p'.math

private theorem alike_deferring :
    (deferring.compiler Memory {}).Alike SameJobs (deferring.compiler Cache.Null {}) where
  options := rfl
  answer := by
    rintro ⟨_, code, math⟩ ⟨world, _, _⟩ question ⟨rfl, rfl, rfl⟩
    have looked (key : Option Key) :
        (⟨{}, ()⟩ : World Memory Unit).find? key = (none, ⟨{}, ()⟩) := by
      cases key <;> simp [World.find?, Cache.get?, Cache.afterGet]
    have looked' (key : Option Key) : world.find? key = (none, world) := by
      cases key <;> rfl
    rw [answer_deferring looked, answer_deferring looked']
    cases question <;> exact ⟨rfl, rfl, rfl, rfl⟩

private theorem begin_deferring :
    ∃ (compiled : Compiled Unit) (next : World Memory Unit),
      deferring.begin "$a$ $a$" {} ⟨{}, ()⟩ = (.inr compiled, next) ∧
        compiled.jobs.map (fun job => (job.1, job.2.key)) =
          [(⟨.math, 0⟩, some (.math "a" false)), (⟨.math, 1⟩, some (.math "a" false))] ∧
        ∀ job ∈ compiled.jobs, expression? job.2 = some ("a", false) := by
  have start : SameJobs { world := ⟨{}, ()⟩ } { world := ⟨⟨⟩, ()⟩ } := ⟨rfl, rfl, rfl⟩
  obtain ⟨results, -, code, math⟩ :=
    alike_deferring.compile (deferring.events "$a$ $a$" {}) .initial start
  rcases deferring.begin_cases "$a$ $a$" {} (⟨{}, ()⟩ : World Memory Unit) with
    ⟨blank, -⟩ | ⟨html, -, found, -⟩ | ⟨result, s, pass, -, ran, begun⟩
  · exact absurd blank (by decide +kernel)
  · cases found
  · have same : (deferring.compiler Memory {}).compile (deferring.events "$a$ $a$" {}) .initial
        { world := ⟨{}, ()⟩ } = (result, s, pass) := ran
    rw [same] at results code math
    have jobs : pass.jobs = ((deferring.compiler Cache.Null {}).compile
        (deferring.events "$a$ $a$" {}) .initial { world := ⟨⟨⟩, ()⟩ }).2.2.jobs := by
      rw [Pass.jobs, code, math]
      rfl
    have compiles : ((deferring.compiler Cache.Null {}).compile (deferring.events "$a$ $a$" {})
        .initial { world := ⟨⟨⟩, ()⟩ }).1.toOption.isSome = true := by decide +kernel
    rw [← results] at compiles
    cases result with
    | error e => cases compiles
    | ok document =>
      refine ⟨_, _, begun, ?_⟩
      change pass.jobs.map _ = _ ∧ ∀ job ∈ pass.jobs, _
      rw [jobs]
      exact ⟨by decide +kernel, by decide +kernel⟩

end Renderer

end Mathdown
