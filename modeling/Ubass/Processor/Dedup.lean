import Ubass.Manager.Windows

/-!
# Copies of one packet

Every datagram is handled by a task of its own.  The task of a copy looks the
fingerprint up under the read lock and inserts it under the write lock; what the
insertion answers is not used.  Whether two copies are forwarded is decided when
the second of them looks: between the lookup and the insertion of the first, or
after it.
-/

set_option autoImplicit false

namespace Ubass

namespace DedupPhase

/-- The lookup found nothing, so the packet is or will be handed on. -/
def passed : DedupPhase → Bool
  | adding => true
  | forwarded => true
  | arriving => false
  | dropped => false

end DedupPhase

namespace Deduplication

/-- The tasks of all datagrams by their number, among them those that handle a copy of one packet.
Its fingerprint does not expire. -/
def copiesMachine (fingerprints : Nat → PacketFingerprint) (copied : PacketFingerprint) :
    Machine Deduplication DedupLabel where
  initial state := ∀ number, fingerprints number = copied → state.phase number = .arriving
  step state
    | .dedupWithPayload number now => state.dedupWithPayload number (fingerprints number) now
    | .pruneQueue now =>
        let (window, expired) := state.window.pruneQueue now
        some { state with window := window, expired := state.expired ++ expired }
    | .pruneRemove =>
        if copied ∈ state.expired then none
        else some { state with window := state.window.pruneRemove state.expired, expired := [] }

def ForwardsOnce (fingerprints : Nat → PacketFingerprint) (copied : PacketFingerprint)
    (state : Deduplication) : Prop :=
  ∀ left right, fingerprints left = copied → fingerprints right = copied →
    state.phase left = .forwarded → state.phase right = .forwarded → left = right

def PassesOnce (fingerprints : Nat → PacketFingerprint) (copied : PacketFingerprint)
    (state : Deduplication) : Prop :=
  ∀ left right, fingerprints left = copied → fingerprints right = copied →
    (state.phase left).passed = true → (state.phase right).passed = true → left = right

/-- A copy does not look between the lookup and the insertion of another one. -/
def LooksAlone (fingerprints : Nat → PacketFingerprint) (copied : PacketFingerprint)
    (state : Deduplication) : DedupLabel → Prop
  | .dedupWithPayload number _ =>
      fingerprints number = copied → state.phase number = .arriving →
        state.window.contains copied = false →
          ∀ other, fingerprints other = copied → state.phase other ≠ .adding
  | .pruneQueue _ => True
  | .pruneRemove => True

def Remembers (fingerprints : Nat → PacketFingerprint) (copied : PacketFingerprint)
    (state : Deduplication) : Prop :=
  ∀ number, fingerprints number = copied → state.phase number = .forwarded →
    state.window.contains copied = true

variable {fingerprints : Nat → PacketFingerprint} {copied : PacketFingerprint}

theorem PassesOnce.forwardsOnce {state : Deduplication}
    (passes : state.PassesOnce fingerprints copied) : state.ForwardsOnce fingerprints copied := by
  intro left right leftCopy rightCopy leftForwarded rightForwarded
  apply passes left right leftCopy rightCopy
  · rw [leftForwarded]
    rfl
  · rw [rightForwarded]
    rfl

/-- What one step of a task does to the phases: a lookup sends the task on or away, an insertion
ends it. -/
theorem dedupWithPayload_cases {state next : Deduplication} {number : Nat}
    {fingerprint : PacketFingerprint} {now : Timestamp}
    (stepped : state.dedupWithPayload number fingerprint now = some next) :
    (state.phase number = .arriving ∧ next.window = state.window ∧ next.expired = state.expired ∧
      next.phase = Function.update state.phase number
        (if state.window.contains fingerprint then .dropped else .adding)) ∨
    (state.phase number = .adding ∧ next.window = (state.window.add fingerprint now).1 ∧
      next.expired = state.expired ∧
      next.phase = Function.update state.phase number .forwarded) := by
  rw [dedupWithPayload] at stepped
  cases phase : state.phase number with
  | arriving =>
      simp only [phase, Option.some.injEq] at stepped
      subst stepped
      exact Or.inl ⟨rfl, rfl, rfl, rfl⟩
  | adding =>
      simp only [phase, Option.some.injEq] at stepped
      subst stepped
      exact Or.inr ⟨rfl, rfl, rfl, rfl⟩
  | forwarded => simp [phase] at stepped
  | dropped => simp [phase] at stepped

theorem copies_prune {state next : Deduplication} {label : DedupLabel}
    (prune : ∀ number now, label ≠ .dedupWithPayload number now)
    (stepped : (copiesMachine fingerprints copied).step state label = some next) :
    next.phase = state.phase ∧
      next.window.contains copied = state.window.contains copied := by
  cases label with
  | dedupWithPayload number now => exact absurd rfl (prune number now)
  | pruneQueue now =>
      cases stepped
      exact ⟨rfl, rfl⟩
  | pruneRemove =>
      simp only [copiesMachine] at stepped
      split at stepped
      · cases stepped
      · rename_i kept
        cases stepped
        exact ⟨rfl, FingerprintWindow.contains_pruneRemove kept⟩

theorem copies_remembers {state next : Deduplication} {label : DedupLabel}
    (remembers : state.Remembers fingerprints copied)
    (stepped : (copiesMachine fingerprints copied).step state label = some next) :
    next.Remembers fingerprints copied := by
  intro other copy forwarded
  cases label with
  | dedupWithPayload number now =>
      rcases dedupWithPayload_cases stepped with
        ⟨arriving, window, _, phase⟩ | ⟨adding, window, _, phase⟩
      · rw [window]
        rw [phase] at forwarded
        by_cases same : other = number
        · subst same
          rw [Function.update_self] at forwarded
          split at forwarded <;> cases forwarded
        · rw [Function.update_of_ne same] at forwarded
          exact remembers other copy forwarded
      · rw [window, FingerprintWindow.contains_add]
        by_cases same : other = number
        · subst same
          exact Or.inl copy.symm
        · rw [phase, Function.update_of_ne same] at forwarded
          exact Or.inr (remembers other copy forwarded)
  | pruneQueue now =>
      obtain ⟨phase, contains⟩ := copies_prune (by simp) stepped
      rw [contains]
      rw [phase] at forwarded
      exact remembers other copy forwarded
  | pruneRemove =>
      obtain ⟨phase, contains⟩ := copies_prune (by simp) stepped
      rw [contains]
      rw [phase] at forwarded
      exact remembers other copy forwarded

theorem copies_passed {state next : Deduplication} {label : DedupLabel} {number : Nat}
    (stepped : (copiesMachine fingerprints copied).step state label = some next)
    (passed : (state.phase number).passed = true) : (next.phase number).passed = true := by
  cases label with
  | dedupWithPayload moving now =>
      rcases dedupWithPayload_cases stepped with
        ⟨arriving, _, _, phase⟩ | ⟨_, _, _, phase⟩
      · have different : number ≠ moving := by
          rintro rfl
          rw [arriving] at passed
          cases passed
        rwa [phase, Function.update_of_ne different]
      · rw [phase]
        by_cases same : number = moving
        · rw [same, Function.update_self]
          rfl
        · rwa [Function.update_of_ne same]
  | pruneQueue now => rwa [(copies_prune (by simp) stepped).1]
  | pruneRemove => rwa [(copies_prune (by simp) stepped).1]

theorem PassesOnce.of_kept {state next : Deduplication}
    (passes : state.PassesOnce fingerprints copied)
    (kept : ∀ other, fingerprints other = copied → (next.phase other).passed = true →
      (state.phase other).passed = true) : next.PassesOnce fingerprints copied := by
  intro left right leftCopy rightCopy leftPassed rightPassed
  exact passes left right leftCopy rightCopy (kept left leftCopy leftPassed)
    (kept right rightCopy rightPassed)

theorem lookup_exactStep {state next : Deduplication} {number : Nat} {now : Timestamp}
    (remembers : state.Remembers fingerprints copied) (copy : fingerprints number = copied)
    (arriving : state.phase number = .arriving) (unseen : state.window.contains copied = false)
    (moved : next.phase = Function.update state.phase number .adding) :
    next.PassesOnce fingerprints copied ↔
      state.LooksAlone fingerprints copied (.dedupWithPayload number now) := by
  constructor
  · intro once _ _ _ other otherCopy adding
    have different : other ≠ number := by
      rintro rfl
      rw [arriving] at adding
      cases adding
    apply different
    apply once other number otherCopy copy
    · rw [moved, Function.update_of_ne different, adding]
      rfl
    · rw [moved, Function.update_self]
      rfl
  · intro alone
    have first : ∀ other, fingerprints other = copied → (state.phase other).passed = false := by
      intro other otherCopy
      cases earlier : state.phase other with
      | arriving => rfl
      | dropped => rfl
      | adding => exact absurd earlier (alone copy arriving unseen other otherCopy)
      | forwarded =>
          have seen := remembers other otherCopy earlier
          rw [unseen] at seen
          cases seen
    have only : ∀ other, fingerprints other = copied → (next.phase other).passed = true →
        other = number := by
      intro other otherCopy passed
      by_contra different
      rw [moved, Function.update_of_ne different, first other otherCopy] at passed
      cases passed
    intro left right leftCopy rightCopy leftPassed rightPassed
    rw [only left leftCopy leftPassed, only right rightCopy rightPassed]

/-- A step lets a second copy pass exactly when its lookup falls between the lookup and the
insertion of the first. -/
theorem copies_exactStep {state next : Deduplication} {label : DedupLabel}
    (passes : state.PassesOnce fingerprints copied)
    (remembers : state.Remembers fingerprints copied)
    (stepped : (copiesMachine fingerprints copied).step state label = some next) :
    next.PassesOnce fingerprints copied ↔ state.LooksAlone fingerprints copied label := by
  cases label with
  | pruneQueue now =>
      refine iff_of_true ?_ trivial
      rw [PassesOnce, (copies_prune (by simp) stepped).1]
      exact passes
  | pruneRemove =>
      refine iff_of_true ?_ trivial
      rw [PassesOnce, (copies_prune (by simp) stepped).1]
      exact passes
  | dedupWithPayload number now =>
      rcases dedupWithPayload_cases stepped with
        ⟨arriving, _, _, phase⟩ | ⟨adding, _, _, phase⟩
      · by_cases passing : fingerprints number = copied ∧ state.window.contains copied = false
        · obtain ⟨copy, unseen⟩ := passing
          rw [copy, unseen] at phase
          exact lookup_exactStep remembers copy arriving unseen phase
        · -- a copy that is dropped, or another packet
          refine iff_of_true (passes.of_kept ?_) ?_
          · intro other otherCopy passed
            by_cases same : other = number
            · subst same
              have seen : state.window.contains copied = true := by
                rw [not_and, Bool.not_eq_false] at passing
                exact passing otherCopy
              rw [phase, Function.update_self, otherCopy, seen] at passed
              cases passed
            · rwa [phase, Function.update_of_ne same] at passed
          · intro copy _ unseen
            exact absurd ⟨copy, unseen⟩ passing
      · -- an insertion
        refine iff_of_true (passes.of_kept ?_) ?_
        · intro other _ passed
          by_cases same : other = number
          · rw [same, adding]
            rfl
          · rwa [phase, Function.update_of_ne same] at passed
        · intro _ arriving
          rw [adding] at arriving
          cases arriving

/-- What every run keeps in which no copy looks between the steps of another. -/
structure Looked (fingerprints : Nat → PacketFingerprint) (copied : PacketFingerprint)
    (state : Deduplication) : Prop where
  passes : state.PassesOnce fingerprints copied
  remembers : state.Remembers fingerprints copied

theorem looked_initial {state : Deduplication}
    (initial : (copiesMachine fingerprints copied).initial state) :
    state.Looked fingerprints copied := by
  constructor
  · intro left right leftCopy _ leftPassed _
    rw [initial left leftCopy] at leftPassed
    cases leftPassed
  · intro number copy forwarded
    rw [initial number copy] at forwarded
    cases forwarded

theorem step_looked {state next : Deduplication} {label : DedupLabel}
    (looked : state.Looked fingerprints copied) (alone : state.LooksAlone fingerprints copied label)
    (stepped : (copiesMachine fingerprints copied).step state label = some next) :
    next.Looked fingerprints copied where
  passes := (copies_exactStep looked.passes looked.remembers stepped).mpr alone
  remembers := copies_remembers looked.remembers stepped

theorem passesOnce_iff_guarded {first final : Deduplication} {labels : List DedupLabel}
    (initial : (copiesMachine fingerprints copied).initial first)
    (ran : (copiesMachine fingerprints copied).run first labels = some final) :
    (copiesMachine fingerprints copied).HoldsAlong (PassesOnce fingerprints copied) first labels ↔
      (copiesMachine fingerprints copied).Guarded (LooksAlone fingerprints copied) first labels := by
  apply Machine.holdsAlong_iff_guarded_of_invariant _ _ _ (looked_initial initial) ran
  · intro state label next looked stepped
    exact copies_exactStep looked.passes looked.remembers stepped
  · intro state label next looked alone stepped
    exact step_looked looked alone stepped

theorem holdsAlong_of_passesOnce {state final : Deduplication} {labels : List DedupLabel}
    (ran : (copiesMachine fingerprints copied).run state labels = some final)
    (passes : final.PassesOnce fingerprints copied) :
    state.PassesOnce fingerprints copied ∧
      (copiesMachine fingerprints copied).HoldsAlong (PassesOnce fingerprints copied) state
        labels := by
  induction labels generalizing state with
  | nil =>
      cases Option.some.inj ran
      exact ⟨passes, trivial⟩
  | cons label rest ih =>
      obtain ⟨next, stepped, restRan⟩ := Machine.run_cons_eq_some _ |>.mp ran
      obtain ⟨here, along⟩ := ih restRan
      refine ⟨?_, ?_⟩
      · intro left right leftCopy rightCopy leftPassed rightPassed
        exact here left right leftCopy rightCopy (copies_passed stepped leftPassed)
          (copies_passed stepped rightPassed)
      · intro other eq
        cases Option.some.inj (eq.symm.trans stepped)
        exact ⟨here, along⟩

/-- At most one copy is forwarded in a run in which no copy looks between the lookup and the
insertion of another; and in a run that leaves no task between the two, only then. -/
theorem forwardsOnce_iff_looksAlone (fingerprints : Nat → PacketFingerprint)
    (copied : PacketFingerprint) (first final : Deduplication) (labels : List DedupLabel)
    (initial : (copiesMachine fingerprints copied).initial first)
    (ran : (copiesMachine fingerprints copied).run first labels = some final) :
    ((copiesMachine fingerprints copied).Guarded (LooksAlone fingerprints copied) first labels →
      final.ForwardsOnce fingerprints copied) ∧
    ((∀ number, fingerprints number = copied → final.phase number ≠ .adding) →
      (final.ForwardsOnce fingerprints copied ↔
        (copiesMachine fingerprints copied).Guarded (LooksAlone fingerprints copied) first
          labels)) := by
  have enough : (copiesMachine fingerprints copied).Guarded (LooksAlone fingerprints copied) first
      labels → final.ForwardsOnce fingerprints copied := by
    intro guarded
    apply PassesOnce.forwardsOnce
    apply Looked.passes
    apply Machine.guarded_run_preserves _ _ (looked_initial initial) guarded ran
    intro state label next looked alone stepped
    exact step_looked looked alone stepped
  refine ⟨enough, ?_⟩
  intro finished
  refine ⟨?_, enough⟩
  intro once
  have ended : ∀ number, fingerprints number = copied → (final.phase number).passed = true →
      final.phase number = .forwarded := by
    intro number copy passed
    cases phase : final.phase number with
    | forwarded => rfl
    | adding => exact absurd phase (finished number copy)
    | arriving =>
        rw [phase] at passed
        cases passed
    | dropped =>
        rw [phase] at passed
        cases passed
  have passes : final.PassesOnce fingerprints copied := by
    intro left right leftCopy rightCopy leftPassed rightPassed
    exact once left right leftCopy rightCopy (ended left leftCopy leftPassed)
      (ended right rightCopy rightPassed)
  exact (passesOnce_iff_guarded initial ran).mp (holdsAlong_of_passesOnce ran passes).2

def sampleFingerprint : PacketFingerprint := ⟨List.replicate 16 7, rfl⟩

/-- The tasks of these numbers move in this order. -/
def interleaving (numbers : List Nat) : List DedupLabel :=
  numbers.map fun number => .dedupWithPayload number ⟨0, Timestamp.zero_lt⟩

/-- The first copy is through before the second one looks. -/
theorem forwardsOnce_iff_looksAlone_sequential :
    ∃ final, (copiesMachine (fun _ => sampleFingerprint) sampleFingerprint).run start
        (interleaving [0, 0, 1]) = some final ∧
      final.ForwardsOnce (fun _ => sampleFingerprint) sampleFingerprint := by
  refine ⟨_, rfl, ?_⟩
  apply (forwardsOnce_iff_looksAlone (fun _ => sampleFingerprint) sampleFingerprint start _
    (interleaving [0, 0, 1]) (fun _ _ => rfl) rfl).1
  refine ⟨?_, ?_⟩
  · intro _ _ _ other _ adding
    cases adding
  · intro next stepped
    cases stepped
    refine ⟨?_, ?_⟩
    · intro _ arriving
      cases arriving
    · intro next stepped
      cases stepped
      refine ⟨?_, fun _ _ => trivial⟩
      intro _ _ unseen
      cases unseen

/-- Both copies look before either inserts. -/
theorem both_copies_forwarded :
    ∃ final, (copiesMachine (fun _ => sampleFingerprint) sampleFingerprint).run start
        (interleaving [0, 1, 0, 1]) = some final ∧
      final.phase 0 = .forwarded ∧ final.phase 1 = .forwarded ∧
      ¬ final.ForwardsOnce (fun _ => sampleFingerprint) sampleFingerprint := by
  refine ⟨_, rfl, rfl, rfl, ?_⟩
  intro once
  exact absurd (once 0 1 rfl rfl rfl rfl) (by decide)

end Deduplication
end Ubass
