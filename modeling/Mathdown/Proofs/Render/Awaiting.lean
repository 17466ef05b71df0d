import Mathdown.Proofs.Render.Findings
import Mathdown.Proofs.Render.Moves
import Mathdown.Proofs.Render.Results

/-!
Calls on a schedule. Each poll takes one job nearer to its end and leaves all others as they are, so that
after any rounds a job is where the number of its polls has brought it, and the journal has just one
finding for each job that is done.
-/

namespace Mathdown

namespace Render

variable {γ ω ρ : Type}

namespace Slot

variable {step : ρ → ω → (ρ ⊕ String) × ω} {id : PlaceholderId} {front back : List (Slot ρ)}

theorem pollAt_of_forall_ne {slots : List (Slot ρ)} (other : ∀ slot ∈ slots, slot.id ≠ id) (w : ω) :
    pollAt step id slots w = (slots, w) := by
  induction slots with
  | nil => rfl
  | cons first rest ih =>
    obtain ⟨here, others⟩ := List.forall_mem_cons.mp other
    simp only [pollAt, if_neg here, ih others]

theorem pollAt_append (before : ∀ slot ∈ front, slot.id ≠ id) (state : ρ ⊕ String) (w : ω) :
    pollAt step id (front ++ ⟨id, state⟩ :: back) w =
      (front ++ (poll step ⟨id, state⟩ w).1 :: back, (poll step ⟨id, state⟩ w).2) := by
  induction front with
  | nil => simp [pollAt]
  | cons first rest ih =>
    obtain ⟨here, others⟩ := List.forall_mem_cons.mp before
    simp only [List.cons_append, pollAt, if_neg here, ih others]

end Slot

/-- Whether an outcome is what a job finds, whatever the engines have gone through meanwhile. -/
def Job.Finds (fallback : FallbackEngine ω) (job : Job ω) (outcome : Outcome) : Prop :=
  ∃ atStart atEnd : ω, ((job.work fallback atStart).1.finish atEnd).1 = outcome

variable [Cache γ] {fallback : FallbackEngine ω} {s : Schedule}

theorem Running.pollNoting_of_delay_zero {job : Running ω} (ended : job.work.delay = 0)
    (id : PlaceholderId) (w : World γ ω × Journal) :
    let f : Finding := ⟨id, job.key, (job.work.finish w.1.engines).1⟩
    ∃ next : World γ ω, next.cache = f.store w.1.cache ∧ job.pollNoting id w =
      (.inr f.outcome.html, next, { w.2 with found := w.2.found ++ [f] }) := by
  refine ⟨_, ?_, by rw [pollNoting, Running.poll_of_delay_zero ended]⟩
  obtain ⟨key, work⟩ := job
  simp only [Finding.store]
  split
  · cases key <;> rfl
  · rfl

theorem Running.pollNoting_of_delay_succ {job : Running ω} {n : Nat} (more : job.work.delay = n + 1)
    (id : PlaceholderId) (w : World γ ω × Journal) :
    job.pollNoting id w = (.inl (.started { job with work := { job.work with delay := n } }), w) := by
  rw [pollNoting, Running.poll_of_delay_succ more]

/-- Where some polls have brought a job on a schedule, beside what has been found. -/
inductive Slot.Stands (fallback : FallbackEngine ω) (s : Schedule) (turns : List PlaceholderId)
    (found : List Finding) (slot : Slot (Pending ω)) (job : PlaceholderId × Job ω) : Prop where
  | waiting (same : slot = ⟨job.1, .inl (.waiting job.2)⟩) (untried : turns.count job.1 = 0)
  | started {running : Running ω} {atStart : ω} (same : slot = ⟨job.1, .inl (.started running)⟩)
      (key : running.key = job.2.key)
      (work : running.work.finish = (job.2.work fallback atStart).1.finish)
      (tried : 0 < turns.count job.1)
      (delay : running.work.delay + turns.count job.1 =
        s.delay job.1 (job.2.work fallback atStart).1.delay)
  | done {outcome : Outcome} {atStart : ω} (same : slot = ⟨job.1, .inr outcome.html⟩)
      (found : ⟨job.1, job.2.key, outcome⟩ ∈ found)
      (delay : s.delay job.1 (job.2.work fallback atStart).1.delay < turns.count job.1)

variable {turns : List PlaceholderId} {found more : List Finding} {slot : Slot (Pending ω)}
  {job : PlaceholderId × Job ω}

theorem Slot.Stands.id (stands : slot.Stands fallback s turns found job) : slot.id = job.1 := by
  cases stands with
  | waiting same | started same | done same => rw [same]

private theorem count_beside {id other : PlaceholderId} (apart : other ≠ id) :
    (turns ++ [other]).count id = turns.count id := by
  rw [List.count_append, List.count_singleton, if_neg (by simpa using apart), Nat.add_zero]

theorem Slot.Stands.beside (stands : slot.Stands fallback s turns found job) {id : PlaceholderId}
    (other : id ≠ job.1) (kept : ∀ f ∈ found, f ∈ more) :
    slot.Stands fallback s (turns ++ [id]) more job := by
  have same : (turns ++ [id]).count job.1 = turns.count job.1 := count_beside other
  cases stands with
  | waiting slot untried => exact .waiting slot (same ▸ untried)
  | started slot key work tried delay => exact .started slot key work (same ▸ tried) (same ▸ delay)
  | done slot found delay => exact .done slot (kept _ found) (same ▸ delay)

/-- What a poll of a job adds to the journal and to the cache. -/
structure Gains (w next : World γ ω × Journal) (started : List PlaceholderId) (found : List Finding) :
    Prop where
  cache : next.1.cache = found.foldl (fun c f => f.store c) w.1.cache
  started : next.2.started = w.2.started ++ started
  found : next.2.found = w.2.found ++ found

private theorem Running.gains_pollNoting {running : Running ω} {atStart : ω}
    (key : running.key = job.2.key)
    (work : running.work.finish = (job.2.work fallback atStart).1.finish)
    (delay : running.work.delay + turns.count job.1 =
      s.delay job.1 (job.2.work fallback atStart).1.delay) (w : World γ ω × Journal) :
    ∃ fs, Gains w (running.pollNoting job.1 w).2 [] fs ∧
      Slot.Stands fallback s (turns ++ [job.1]) (w.2.found ++ fs)
        ⟨job.1, (running.pollNoting job.1 w).1⟩ job ∧
      ∀ f ∈ fs, f.id = job.1 ∧ f.key = job.2.key ∧ job.2.Finds fallback f.outcome ∧
        (running.pollNoting job.1 w).1 = .inr f.outcome.html ∧ fs = [f] := by
  have counted : (turns ++ [job.1]).count job.1 = turns.count job.1 + 1 := by simp
  cases ended : running.work.delay with
  | zero =>
    obtain ⟨next, cache, polled⟩ := Running.pollNoting_of_delay_zero ended job.1 w
    rw [polled, key, work]
    refine ⟨[_], ⟨by rw [cache, key, work]; rfl, by simp, rfl⟩, ?_, ?_⟩
    · have late : s.delay job.1 (job.2.work fallback atStart).1.delay < (turns ++ [job.1]).count job.1 := by
        omega
      exact .done rfl (List.mem_append_right _ (List.mem_singleton_self _)) late
    · intro f member
      cases List.mem_singleton.mp member
      exact ⟨rfl, rfl, ⟨atStart, w.1.engines, rfl⟩, rfl, rfl⟩
  | succ n =>
    rw [Running.pollNoting_of_delay_succ ended]
    refine ⟨[], ⟨rfl, by simp, by simp⟩, ?_, fun f none => absurd none List.not_mem_nil⟩
    exact .started rfl key work (by omega) (by simp only; omega)

/-- A poll of a job that is not done starts it if it is its first, and may find something. -/
theorem Slot.Stands.poll {task : Pending ω} {id : PlaceholderId}
    (stands : Slot.Stands fallback s turns found ⟨id, .inl task⟩ job) (w : World γ ω × Journal)
    (noted : w.2.found = found) :
    ∃ fs, Gains w (task.poll fallback s id w).2 (if turns.count job.1 = 0 then [job.1] else []) fs ∧
      Slot.Stands fallback s (turns ++ [job.1]) (found ++ fs) ⟨id, (task.poll fallback s id w).1⟩ job ∧
      ∀ f ∈ fs, f.id = job.1 ∧ f.key = job.2.key ∧ job.2.Finds fallback f.outcome ∧
        (task.poll fallback s id w).1 = .inr f.outcome.html ∧ fs = [f] := by
  subst noted
  cases stands with
  | waiting same untried =>
    cases same
    rw [if_pos untried]
    let running : Running ω := ⟨job.2.key, { (job.2.work fallback w.1.engines).1 with
      delay := s.delay job.1 (job.2.work fallback w.1.engines).1.delay }⟩
    have work : running.work.finish = (job.2.work fallback w.1.engines).1.finish := rfl
    have delay : running.work.delay + turns.count job.1 =
        s.delay job.1 (job.2.work fallback w.1.engines).1.delay := by
      rw [untried]
      rfl
    obtain ⟨fs, gains, stands, own⟩ := running.gains_pollNoting rfl work delay
      ({ w.1 with engines := (job.2.work fallback w.1.engines).2 },
        { w.2 with started := w.2.started ++ [job.1] })
    exact ⟨fs, ⟨gains.cache, by rw [← List.append_nil (_ ++ [_])]; exact gains.started, gains.found⟩,
      stands, own⟩
  | started same key work tried delay =>
    cases same
    rw [if_neg (by omega)]
    exact Running.gains_pollNoting key work delay w
  | done same => cases same

/-- Whether slots, the journal and the cache are as some polls of a call's jobs have left them. -/
structure Awaited (fallback : FallbackEngine ω) (s : Schedule) (jobs : List (PlaceholderId × Job ω))
    (start : γ) (turns : List PlaceholderId) (slots : List (Slot (Pending ω)))
    (w : World γ ω × Journal) : Prop where
  stands : List.Forall₂ (Slot.Stands fallback s turns w.2.found) slots jobs
  /-- What has been found has been stored, in turn. -/
  cache : w.1.cache = w.2.found.foldl (fun c f => f.store c) start
  found : (w.2.found.map Finding.id).Nodup
  /-- Each finding is that of a job which is done. -/
  own : ∀ f ∈ w.2.found, (⟨f.id, .inr f.outcome.html⟩ : Slot (Pending ω)) ∈ slots ∧
    ∃ job ∈ jobs, f.id = job.1 ∧ f.key = job.2.key ∧ job.2.Finds fallback f.outcome
  started : w.2.started.Nodup
  mem_started : ∀ id, id ∈ w.2.started ↔ id ∈ jobs.map Prod.fst ∧ 0 < turns.count id

variable {jobs : List (PlaceholderId × Job ω)} {start : γ} {slots : List (Slot (Pending ω))}
  {w : World γ ω × Journal}

theorem awaited_waiting (fallback : FallbackEngine ω) (s : Schedule)
    (jobs : List (PlaceholderId × Job ω)) (w : World γ ω) :
    Awaited fallback s jobs w.cache [] (jobs.map Slot.waiting) (w, {}) where
  stands := by
    rw [List.forall₂_map_left_iff, List.forall₂_same]
    exact fun job _ => .waiting rfl rfl
  cache := rfl
  found := .nil
  own := fun f none => absurd none List.not_mem_nil
  started := .nil
  mem_started := by simp

theorem map_id_of_stands (stands : List.Forall₂ (Slot.Stands fallback s turns found) slots jobs) :
    slots.map Slot.id = jobs.map Prod.fst := by
  rw [← List.forall₂_eq_eq_eq, List.forall₂_map_left_iff, List.forall₂_map_right_iff]
  exact stands.imp fun slot job own => own.id

private theorem stands_beside (stands : List.Forall₂ (Slot.Stands fallback s turns found) slots jobs)
    {id : PlaceholderId} (other : ∀ job ∈ jobs, job.1 ≠ id) (kept : ∀ f ∈ found, f ∈ more) :
    List.Forall₂ (Slot.Stands fallback s (turns ++ [id]) more) slots jobs := by
  induction stands with
  | nil => exact .nil
  | cons here _ ih =>
    obtain ⟨apart, others⟩ := List.forall_mem_cons.mp other
    exact .cons (here.beside apart.symm kept) (ih others)

private theorem Awaited.turn_of_not_mem (awaited : Awaited fallback s jobs start turns slots w)
    {id : PlaceholderId} (other : id ∉ jobs.map Prod.fst) :
    Awaited fallback s jobs start (turns ++ [id]) slots w where
  stands := stands_beside awaited.stands
    (fun job member same => other (List.mem_map.mpr ⟨job, member, same⟩)) fun f member => member
  cache := awaited.cache
  found := awaited.found
  own := awaited.own
  started := awaited.started
  mem_started := by
    intro id'
    rw [awaited.mem_started]
    refine and_congr_right fun member => ?_
    have apart : id ≠ id' := fun same => other (same ▸ member)
    rw [count_beside apart]

variable {front back : List (Slot (Pending ω))}

private theorem stands_turn (old : Slot (Pending ω)) {new : Slot (Pending ω)}
    (distinct : (jobs.map Prod.fst).Nodup)
    (stands : List.Forall₂ (Slot.Stands fallback s turns found) (front ++ old :: back) jobs)
    (kept : ∀ f ∈ found, f ∈ more)
    (next : ∀ job ∈ jobs, old.Stands fallback s turns found job →
      new.Stands fallback s (turns ++ [job.1]) more job) :
    List.Forall₂ (Slot.Stands fallback s (turns ++ [old.id]) more) (front ++ new :: back) jobs := by
  obtain ⟨front', job, back', rfl, before, here, behind⟩ := exists_append_of_forall₂ stands
  simp only [List.map_append, List.map_cons, List.nodup_append, List.nodup_cons, List.mem_cons,
    List.mem_map] at distinct
  obtain ⟨-, ⟨last, -⟩, first⟩ := distinct
  rw [here.id]
  refine List.rel_append (stands_beside before (fun other member => ?_) kept)
    (.cons (next job (by simp) here) (stands_beside behind (fun other member same => ?_) kept))
  · exact first other.1 ⟨other, member, rfl⟩ job.1 (.inl rfl)
  · exact last ⟨other, member, same⟩

private theorem started_turn {started ids : List PlaceholderId} (distinct : started.Nodup)
    (mem : ∀ other, other ∈ started ↔ other ∈ ids ∧ 0 < turns.count other) {id : PlaceholderId}
    (member : id ∈ ids) :
    (started ++ if turns.count id = 0 then [id] else []).Nodup ∧
      ∀ other, (other ∈ started ++ if turns.count id = 0 then [id] else []) ↔
        other ∈ ids ∧ 0 < (turns ++ [id]).count other := by
  have counted : (turns ++ [id]).count id = turns.count id + 1 := by simp
  have others {other : PlaceholderId} (apart : id ≠ other) :
      (other ∈ started ++ if turns.count id = 0 then [id] else []) ↔ other ∈ started := by
    rw [List.mem_append, or_iff_left]
    split
    · simpa using apart.symm
    · exact List.not_mem_nil
  refine ⟨?_, fun other => ?_⟩
  · by_cases untried : turns.count id = 0
    · rw [if_pos untried, List.nodup_append]
      refine ⟨distinct, List.nodup_singleton _, ?_⟩
      rintro _ first _ second rfl
      rw [mem, List.mem_singleton.mp second] at first
      omega
    · rwa [if_neg untried, List.append_nil]
  · by_cases same : id = other
    · subst same
      rw [counted, List.mem_append, mem]
      by_cases untried : turns.count id = 0
      · simp [untried, member]
      · simp [untried, member, Nat.pos_of_ne_zero untried]
    · rw [others same, mem, count_beside same]

private theorem Awaited.turn_of_done {id : PlaceholderId} {html : String}
    (awaited : Awaited fallback s jobs start turns (front ++ ⟨id, .inr html⟩ :: back) w)
    (distinct : (jobs.map Prod.fst).Nodup) :
    Awaited fallback s jobs start (turns ++ [id]) (front ++ ⟨id, .inr html⟩ :: back) w where
  stands := by
    refine stands_turn _ distinct awaited.stands (fun f member => member) fun job _ own => ?_
    cases own with
    | waiting same => cases same
    | started same => cases same
    | done same found delay =>
      refine .done same found (Nat.lt_of_lt_of_le delay ?_)
      rw [List.count_append]
      exact Nat.le_add_right _ _
  cache := awaited.cache
  found := awaited.found
  own := awaited.own
  started := awaited.started
  mem_started := by
    obtain ⟨job, member, own⟩ := exists_of_forall₂ awaited.stands List.mem_append_cons_self
    have tried : turns.count id ≠ 0 := by
      cases own with
      | waiting same => cases same
      | started same => cases same
      | done same found delay =>
        cases same
        omega
    have started := started_turn awaited.started awaited.mem_started
      (List.mem_map.mpr ⟨job, member, own.id.symm⟩)
    rw [if_neg tried, List.append_nil] at started
    exact started.2

private theorem Awaited.turn_of_task {id : PlaceholderId} {task : Pending ω}
    (awaited : Awaited fallback s jobs start turns (front ++ ⟨id, .inl task⟩ :: back) w)
    (distinct : (jobs.map Prod.fst).Nodup) :
    Awaited fallback s jobs start (turns ++ [id])
      (front ++ ⟨id, (task.poll fallback s id w).1⟩ :: back) (task.poll fallback s id w).2 := by
  have present : (⟨id, .inl task⟩ : Slot (Pending ω)) ∈ front ++ ⟨id, .inl task⟩ :: back :=
    List.mem_append_cons_self
  obtain ⟨job, member, here⟩ := exists_of_forall₂ awaited.stands present
  obtain rfl : id = job.1 := here.id
  obtain ⟨fs, gains, stands, own⟩ := here.poll w rfl
  have started := started_turn awaited.started awaited.mem_started (List.mem_map_of_mem member)
  -- What has been found belongs to jobs that are done, and this one is not.
  have unfound (f : Finding) (found : f ∈ w.2.found) : f.id ≠ job.1 := by
    intro same
    have slot := List.inj_on_of_nodup_map (map_id_of_stands awaited.stands ▸ distinct)
      (awaited.own f found).1 present same
    exact Sum.inr_ne_inl (congrArg Slot.state slot)
  refine ⟨?_, ?_, ?_, ?_, gains.started ▸ started.1, gains.started ▸ started.2⟩
  · refine stands_turn ⟨job.1, .inl task⟩ distinct awaited.stands
      (fun f found => gains.found ▸ List.mem_append_left _ found) fun other member' same => ?_
    obtain rfl := List.inj_on_of_nodup_map distinct member member' same.id
    rw [gains.found]
    exact stands
  · rw [gains.cache, gains.found, List.foldl_append, awaited.cache]
  · rw [gains.found, List.map_append, List.nodup_append]
    refine ⟨awaited.found, ?_, ?_⟩
    · rcases fs with - | ⟨f, rest⟩
      · exact .nil
      · obtain ⟨-, -, -, -, alone⟩ := own f (List.mem_cons_self ..)
        rw [alone]
        exact List.nodup_singleton _
    · rintro _ first _ second rfl
      obtain ⟨f, found, rfl⟩ := List.mem_map.mp first
      obtain ⟨g, found', same⟩ := List.mem_map.mp second
      exact unfound f found (same.symm.trans (own g found').1)
  · intro f found
    rcases List.mem_append.mp (gains.found ▸ found) with found | found
    · obtain ⟨slot, owned⟩ := awaited.own f found
      refine ⟨?_, owned⟩
      rcases List.mem_append.mp slot with before | rest
      · exact List.mem_append_left _ before
      · rcases List.mem_cons.mp rest with same | behind
        · exact absurd (congrArg Slot.state same) Sum.inr_ne_inl
        · exact List.mem_append_right _ (List.mem_cons_of_mem _ behind)
    · obtain ⟨same, key, finds, state, -⟩ := own f found
      refine ⟨?_, job, member, same, key, finds⟩
      rw [state, same]
      exact List.mem_append_right _ (List.mem_cons_self ..)

/-- A poll of a job leaves a call as that many polls leave it. -/
theorem Awaited.turn (awaited : Awaited fallback s jobs start turns slots w)
    (distinct : (jobs.map Prod.fst).Nodup) (id : PlaceholderId) :
    let next := Slot.pollAt (Pending.poll fallback s id) id slots w
    Awaited fallback s jobs start (turns ++ [id]) next.1 next.2 := by
  have ids := map_id_of_stands awaited.stands
  by_cases member : id ∈ slots.map Slot.id
  · obtain ⟨⟨own, state⟩, present, rfl⟩ := List.mem_map.mp member
    obtain ⟨front, back, rfl⟩ := List.append_of_mem present
    have before : ∀ slot ∈ front, slot.id ≠ own := by
      rw [← ids, List.map_append, List.map_cons, List.nodup_append] at distinct
      exact fun slot earlier => distinct.2.2 _ (List.mem_map_of_mem earlier) _ (List.mem_cons_self ..)
    simp only [Slot.pollAt_append before]
    cases state with
    | inl task => exact awaited.turn_of_task distinct
    | inr html => exact awaited.turn_of_done distinct
  · have other : ∀ slot ∈ slots, slot.id ≠ id := fun slot present same =>
      member (List.mem_map.mpr ⟨slot, present, same⟩)
    rw [Slot.pollAt_of_forall_ne other]
    exact awaited.turn_of_not_mem (ids ▸ member)

theorem Awaited.round (awaited : Awaited fallback s jobs start turns slots w)
    (distinct : (jobs.map Prod.fst).Nodup) (ids : List PlaceholderId) :
    let next := Slot.pollEach (Pending.poll fallback s) ids slots w
    Awaited fallback s jobs start (turns ++ ids) next.1 next.2 := by
  induction ids generalizing turns slots w with
  | nil => simpa [Slot.pollEach] using awaited
  | cons id rest ih => simpa [Slot.pollEach] using ih (awaited.turn distinct id)

/-- Once all of its jobs are done, a call has just one finding of each of them. -/
theorem Awaited.found_of_done (awaited : Awaited fallback s jobs start turns slots w)
    (done : ∀ slot ∈ slots, ∃ html, slot.state = .inr html) {job : PlaceholderId × Job ω}
    (member : job ∈ jobs) :
    ∃ outcome, (⟨job.1, .inr outcome.html⟩ : Slot (Pending ω)) ∈ slots ∧
      ⟨job.1, job.2.key, outcome⟩ ∈ w.2.found := by
  obtain ⟨slot, present, own⟩ := exists_of_forall₂ awaited.stands.flip member
  obtain ⟨html, state⟩ := done slot present
  cases own with
  | waiting same => cases same ▸ state
  | started same => cases same ▸ state
  | done same found delay => exact ⟨_, same ▸ present, found⟩

theorem Awaited.perm_of_done (awaited : Awaited fallback s jobs start turns slots w)
    (distinct : (jobs.map Prod.fst).Nodup)
    (done : ∀ slot ∈ slots, ∃ html, slot.state = .inr html) :
    (w.2.found.map Finding.id).Perm (jobs.map Prod.fst) := by
  refine (List.perm_ext_iff_of_nodup awaited.found distinct).mpr fun id => ⟨fun member => ?_, fun member => ?_⟩
  · obtain ⟨f, found, rfl⟩ := List.mem_map.mp member
    obtain ⟨-, job, present, same, -⟩ := awaited.own f found
    exact List.mem_map.mpr ⟨job, present, same.symm⟩
  · obtain ⟨job, present, rfl⟩ := List.mem_map.mp member
    obtain ⟨outcome, -, found⟩ := awaited.found_of_done done present
    exact List.mem_map.mpr ⟨_, found, rfl⟩

theorem Slot.pollEach_of_done {step : PlaceholderId → ρ → ω → (ρ ⊕ String) × ω} {slots : List (Slot ρ)}
    (done : ∀ slot ∈ slots, ∃ html, slot.state = .inr html) (ids : List PlaceholderId) (w : ω) :
    pollEach step ids slots w = (slots, w) := by
  have alone (id : PlaceholderId) : pollAt (step id) id slots w = (slots, w) := by
    induction slots with
    | nil => rfl
    | cons first rest ih =>
      obtain ⟨⟨html, state⟩, others⟩ := List.forall_mem_cons.mp done
      rw [pollAt, poll, state, ih others]
      split <;> rfl
  induction ids with
  | nil => rfl
  | cons id rest ih => simp only [pollEach, alone, ih]

def Slot.pollInTurn (step : PlaceholderId → ρ → ω → (ρ ⊕ String) × ω) :
    List (Slot ρ) → ω → List (Slot ρ) × ω
  | [], w => ([], w)
  | s :: rest, w =>
    let (s, w) := s.poll (step s.id) w
    let (rest, w) := pollInTurn step rest w
    (s :: rest, w)

theorem Slot.pollEach_map_id (step : PlaceholderId → ρ → ω → (ρ ⊕ String) × ω)
    (front slots : List (Slot ρ)) (distinct : ((front ++ slots).map Slot.id).Nodup) (w : ω) :
    pollEach step (slots.map Slot.id) (front ++ slots) w =
      (front ++ (pollInTurn step slots w).1, (pollInTurn step slots w).2) := by
  induction slots generalizing front w with
  | nil => rfl
  | cons slot rest ih =>
    obtain ⟨id, state⟩ := slot
    have before : ∀ slot ∈ front, slot.id ≠ id := by
      rw [List.map_append, List.nodup_append] at distinct
      exact fun slot earlier => distinct.2.2 _ (List.mem_map_of_mem earlier) _ (List.mem_cons_self ..)
    have same : (poll (step id) ⟨id, state⟩ w).1.id = id := by cases state <;> rfl
    have others := ih (front ++ [(poll (step id) ⟨id, state⟩ w).1])
      (by simpa [same] using distinct) (poll (step id) ⟨id, state⟩ w).2
    rw [List.append_assoc, List.singleton_append] at others
    simp only [List.map_cons, pollEach, pollAt_append before, others, pollInTurn, List.append_assoc,
      List.singleton_append]

theorem Slot.pollEach_eq_pollInTurn (step : PlaceholderId → ρ → ω → (ρ ⊕ String) × ω)
    {slots : List (Slot ρ)} (distinct : (slots.map Slot.id).Nodup) (w : ω) :
    pollEach step (slots.map Slot.id) slots w = pollInTurn step slots w :=
  pollEach_map_id step [] slots distinct w

theorem Slot.map_id_pollAll (step : ρ → ω → (ρ ⊕ String) × ω) (slots : List (Slot ρ)) (w : ω) :
    (pollAll step slots w).1.map Slot.id = slots.map Slot.id := by
  induction slots generalizing w with
  | nil => rfl
  | cons slot rest ih =>
    obtain ⟨id, state⟩ := slot
    cases state <;> exact congrArg (id :: ·) (ih _)

theorem Slot.map_id_startAll {τ : Type} (step : τ → ω → (ρ ⊕ String) × ω)
    (jobs : List (PlaceholderId × τ)) (w : ω) :
    (startAll step jobs w).1.map Slot.id = jobs.map Prod.fst := by
  induction jobs generalizing w with
  | nil => rfl
  | cons job rest ih => exact congrArg (job.1 :: ·) (ih _)

private theorem pollNoting_eq (running : Running ω) (id : PlaceholderId) (w : World γ ω × Journal) :
    ∃ journal, running.pollNoting id w =
      ((running.poll w.1).1.map .started fun html => html, (running.poll w.1).2, journal) := by
  rw [Running.pollNoting]
  rcases running.poll w.1 with ⟨job | html, next⟩ <;> exact ⟨_, rfl⟩

private theorem pollInTurn_waiting (fallback : FallbackEngine ω) (ids : List PlaceholderId)
    (jobs : List (PlaceholderId × Job ω)) (w : World γ ω × Journal) :
    ∃ journal, Slot.pollInTurn (Pending.poll fallback (.inTurn ids)) (jobs.map Slot.waiting) w =
      ((Slot.startAll (Job.startAndPoll fallback) jobs w.1).1.map Slot.asPending,
        (Slot.startAll (Job.startAndPoll fallback) jobs w.1).2, journal) := by
  induction jobs generalizing w with
  | nil => exact ⟨_, rfl⟩
  | cons first rest ih =>
    obtain ⟨id, job⟩ := first
    obtain ⟨journal, polled⟩ := pollNoting_eq (job.start fallback w.1).1 id
      ((job.start fallback w.1).2, { w.2 with started := w.2.started ++ [id] })
    obtain ⟨journal', others⟩ := ih ((job.startAndPoll fallback w.1).2, journal)
    refine ⟨journal', ?_⟩
    have here : Slot.poll (Pending.poll fallback (.inTurn ids) id) (Slot.waiting (id, job)) w =
        (Slot.asPending ⟨id, (job.startAndPoll fallback w.1).1⟩, (job.startAndPoll fallback w.1).2,
          journal) := by
      exact congrArg (fun (polled : (Pending ω ⊕ String) × World γ ω × Journal) =>
        ((⟨id, polled.1⟩ : Slot (Pending ω)), polled.2)) polled
    change (let next := Slot.poll (Pending.poll fallback (.inTurn ids) id) (Slot.waiting (id, job)) w
      let others := Slot.pollInTurn (Pending.poll fallback (.inTurn ids)) (rest.map Slot.waiting) next.2
      (next.1 :: others.1, others.2)) = _
    simp only [here, others]
    rfl

private theorem pollInTurn_asPending (fallback : FallbackEngine ω) (ids : List PlaceholderId)
    (slots : List (Slot (Running ω))) (w : World γ ω × Journal) :
    ∃ journal, Slot.pollInTurn (Pending.poll fallback (.inTurn ids)) (slots.map Slot.asPending) w =
      ((Slot.pollAll Running.poll slots w.1).1.map Slot.asPending,
        (Slot.pollAll Running.poll slots w.1).2, journal) := by
  induction slots generalizing w with
  | nil => exact ⟨_, rfl⟩
  | cons first rest ih =>
    obtain ⟨journal, here⟩ : ∃ journal,
        first.asPending.poll (Pending.poll fallback (.inTurn ids) first.id) w =
          ((first.poll Running.poll w.1).1.asPending, (first.poll Running.poll w.1).2, journal) := by
      obtain ⟨id, running | html⟩ := first
      · obtain ⟨journal, polled⟩ := pollNoting_eq running id w
        exact ⟨journal, congrArg (fun (polled : (Pending ω ⊕ String) × World γ ω × Journal) =>
          ((⟨id, polled.1⟩ : Slot (Pending ω)), polled.2)) polled⟩
      · exact ⟨_, rfl⟩
    obtain ⟨journal', others⟩ := ih ((first.poll Running.poll w.1).2, journal)
    refine ⟨journal', ?_⟩
    change (let next := first.asPending.poll (Pending.poll fallback (.inTurn ids) first.id) w
      let others := Slot.pollInTurn (Pending.poll fallback (.inTurn ids)) (rest.map Slot.asPending) next.2
      (next.1 :: others.1, others.2)) = _
    simp only [here, others]
    rfl

end Render

namespace Renderer

open Render

variable {γ ω : Type} [Cache γ] {r : Renderer ω} {o : Overrides ω} {input : String} {w next : World γ ω}
  {compiled : Compiled ω}

/-- After each of its rounds, a compiled call is as the polls of its jobs have left it. -/
theorem scheduled_of_compiled (passed : r.begin input o w = (.inr compiled, next))
    (distinct : (compiled.jobs.map Prod.fst).Nodup) (s : Schedule) (n : Nat) :
    ∃ slots v, r.scheduled input o w s (n + 1) = settle compiled.document slots compiled.key v ∧
      Awaited r.engines.fallback s compiled.jobs next.cache (s.polls (n + 1)) slots v := by
  induction n with
  | zero =>
    refine ⟨_, _, ?_, (awaited_waiting r.engines.fallback s compiled.jobs next).round distinct (s.round 0)⟩
    simp only [scheduled, pollOn, passed, goOn]
  | succ n ih =>
    obtain ⟨slots, v, same, awaited⟩ := ih
    refine ⟨_, _, ?_, awaited.round distinct (s.round (n + 1))⟩
    have step : r.scheduled input o w s (n + 1 + 1) = r.pollOn s (s.round (n + 1))
        (r.scheduled input o w s (n + 1)).1 (r.scheduled input o w s (n + 1)).2 := rfl
    rw [step, same, settle]
    cases complete : assemble? compiled.document slots with
    | none => rfl
    | some html =>
      -- The call has ended, so that polls of its jobs would have changed nothing.
      rw [Slot.pollEach_of_done (done_of_assemble? complete), settle, complete]
      rfl

private theorem settle_asPending (document : CompiledDocument) (slots : List (Slot (Running ω)))
    (key : Option Cache.Key) (w : World γ ω) (journal : Journal) :
    settle document (slots.map Slot.asPending) key (w, journal) =
      ((conclude document slots key w).1.stage, (conclude document slots key w).2, journal) := by
  have same : assemble? document (slots.map Slot.asPending) = assemble? document slots := by
    rw [assemble?, assemble?, Slot.results?_asPending, List.isEmpty_map]
  rw [settle, conclude, same]
  cases assemble? document slots <;> rfl

/-- The polls of `Renderer.poll` are rounds of one schedule. -/
theorem scheduled_inTurn (passed : r.begin input o w = (.inr compiled, next))
    (distinct : (compiled.jobs.map Prod.fst).Nodup) (n : Nat) :
    ∃ journal, r.scheduled input o w (.inTurn (compiled.jobs.map Prod.fst)) n =
      ((r.polled (.unstarted input o) w n).1.stage, (r.polled (.unstarted input o) w n).2, journal) := by
  -- Behind the first round there are slots, which both ways of polling have in common.
  suffices later : ∀ n, ∃ slots v journal,
      r.polled (.unstarted input o) w (n + 1) = conclude compiled.document slots compiled.key v ∧
        slots.map Slot.id = compiled.jobs.map Prod.fst ∧
        r.scheduled input o w (.inTurn (compiled.jobs.map Prod.fst)) (n + 1) =
          settle compiled.document (slots.map Slot.asPending) compiled.key (v, journal) by
    cases n with
    | zero => exact ⟨_, rfl⟩
    | succ n =>
      obtain ⟨slots, v, journal, polled, -, scheduled⟩ := later n
      exact ⟨journal, by rw [scheduled, settle_asPending, polled]⟩
  intro n
  induction n with
  | zero =>
    obtain ⟨journal, started⟩ := pollInTurn_waiting r.engines.fallback (compiled.jobs.map Prod.fst)
      compiled.jobs (next, {})
    have same : (compiled.jobs.map Slot.waiting).map Slot.id = compiled.jobs.map Prod.fst :=
      List.map_map ..
    rw [← Slot.pollEach_eq_pollInTurn _ (same ▸ distinct), same] at started
    refine ⟨(Slot.startAll (Job.startAndPoll r.engines.fallback) compiled.jobs next).1,
      (Slot.startAll (Job.startAndPoll r.engines.fallback) compiled.jobs next).2, journal, ?_,
      Slot.map_id_startAll .., ?_⟩
    · simp only [polled, Renderer.poll, passed]
    · simp only [scheduled, pollOn, passed, goOn]
      exact congrArg (fun round => settle compiled.document round.1 compiled.key round.2) started
  | succ n ih =>
    obtain ⟨slots, v, journal, polled, ids, scheduled⟩ := ih
    have step : r.polled (.unstarted input o) w (n + 1 + 1) =
      r.poll (r.polled (.unstarted input o) w (n + 1)).1 (r.polled (.unstarted input o) w (n + 1)).2 := rfl
    have step' : r.scheduled input o w (.inTurn (compiled.jobs.map Prod.fst)) (n + 1 + 1) =
      r.pollOn (.inTurn (compiled.jobs.map Prod.fst)) (compiled.jobs.map Prod.fst)
        (r.scheduled input o w (.inTurn (compiled.jobs.map Prod.fst)) (n + 1)).1
        (r.scheduled input o w (.inTurn (compiled.jobs.map Prod.fst)) (n + 1)).2 := rfl
    rw [step, step', polled, scheduled, settle_asPending, conclude]
    cases complete : assemble? compiled.document slots with
    | some html =>
      refine ⟨slots, v, journal, by rw [conclude, complete]; rfl, ids, ?_⟩
      rw [settle_asPending, conclude, complete]
      rfl
    | none =>
      obtain ⟨journal', gone⟩ := pollInTurn_asPending r.engines.fallback
        (compiled.jobs.map Prod.fst) slots (v, journal)
      have same : (slots.map Slot.asPending).map Slot.id = compiled.jobs.map Prod.fst :=
        (List.map_map ..).trans ids
      rw [← Slot.pollEach_eq_pollInTurn _ (same ▸ distinct), same] at gone
      refine ⟨(Slot.pollAll Running.poll slots v).1, (Slot.pollAll Running.poll slots v).2, journal',
        rfl, (Slot.map_id_pollAll ..).trans ids, ?_⟩
      exact congrArg (fun round => settle compiled.document round.1 compiled.key round.2) gone

theorem scheduled_of_answered {result : Except CompileError String}
    (passed : r.begin input o w = (.inl result, next)) (s : Schedule) (n : Nat) :
    r.scheduled input o w s (n + 1) = (.done result, next, {}) := by
  induction n with
  | zero => simp only [scheduled, pollOn, passed]
  | succ n ih =>
    change r.pollOn s (s.round (n + 1)) (r.scheduled input o w s (n + 1)).1
      (r.scheduled input o w s (n + 1)).2 = _
    rw [ih]
    rfl

end Renderer

end Mathdown
