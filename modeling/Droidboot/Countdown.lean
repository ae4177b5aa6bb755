/-
  Droidboot formalization — `countdown` statement by statement, interleaved
  with the key events of the input thread (`droidboot.c`, lines 246–268 and
  331–352; spec §4.4).

  `countdown` arms `autoboot_enabled`, runs `for ( ; seconds &&
  autoboot_enabled; seconds--)` around a one-second sleep, reads the flag
  into `ret` and clears it.  The input thread runs `disable_autoboot` on
  every `EV_KEY` event, whose store clears the flag.  A schedule is any
  interleaving of the countdown's statements with such stores, and
  `Countdown.run` runs one.

  * `run_done`: on every `int`, `countdown` returns within `fuel` moves of
    its own, whatever key events the schedule holds;
  * `run_ret`, `run_iters_le_of_firstKey`: it returns `1` exactly when no
    key event reaches it armed, and after the first such key event in
    iteration `k` it makes at most `k + 1` iterations;
  * `countdown_reaches_int_min`: with no key event and a negative `seconds`,
    the loop counts down to `INT_MIN` and runs `seconds--` there, which C
    leaves undefined, instead of returning.

  `Input` splits the key move into the test and the store of
  `disable_autoboot`, and shows that a run of the two threads is a run of
  this model in which each store is a key move.
-/
import Droidboot.Boot

namespace Droidboot

/-! ## The program -/

/-- Where `countdown` is: before `autoboot_enabled = 1`, at the loop test, in
    the loop body, at `ret = autoboot_enabled`, at `autoboot_enabled = 0`, or
    returned. -/
inductive CountdownPc
  | arm | test | body | read | clear | done
deriving DecidableEq

/-- `countdown(action, seconds)` between two statements, and the flag it
    shares with the input thread. -/
structure Countdown where
  pc : CountdownPc
  /-- `seconds` -/
  seconds : CInt
  /-- `autoboot_enabled` -/
  enabled : Bool
  /-- the iterations of the loop body so far -/
  iters : Nat
  /-- `ret` -/
  ret : Bool
  /-- whether a `seconds--` has been made at `INT_MIN` -/
  wrapped : Bool
deriving DecidableEq

/-- A move of a schedule. -/
inductive Move
  /-- the countdown runs its next statement -/
  | countdown
  /-- the store `autoboot_enabled = 0` of `disable_autoboot`, which the
      input thread makes once its test has read the flag up -/
  | key
deriving DecidableEq

namespace Countdown

/-- `countdown(action, seconds)` as it is called, with the flag at `enabled`. -/
def start (seconds : CInt) (enabled : Bool) : Countdown := ⟨.arm, seconds, enabled, 0, false, false⟩

/-- One move of a schedule. -/
def step (s : Countdown) : Move → Countdown
  | .key => { s with enabled := false }
  | .countdown =>
    match s.pc with
    | .arm => { s with pc := .test, enabled := true }
    | .test => { s with pc := if s.seconds.val ≠ 0 ∧ s.enabled = true then .body else .read }
    | .body =>
      { s with pc := .test, seconds := s.seconds.dec, iters := s.iters + 1,
               wrapped := s.wrapped || decide (s.seconds.val = INT_MIN) }
    | .read => { s with pc := .clear, ret := s.enabled }
    | .clear => { s with pc := .done, enabled := false }
    | .done => s

/-- A schedule run from `s`. -/
def run (s : Countdown) (ms : List Move) : Countdown := ms.foldl step s

/-- `countdown` is between its arming and its final read. -/
def armed (s : Countdown) : Bool :=
  match s.pc with
  | .test | .body | .read => true
  | _ => false

/-- The iteration during which the first key event of the schedule reaches
    the armed countdown, if one does. -/
def firstKey (s : Countdown) : List Move → Option Nat
  | [] => none
  | m :: ms => if m = .key ∧ s.armed = true then some s.iters else (s.step m).firstKey ms

@[simp] theorem run_nil (s : Countdown) : s.run [] = s := rfl

@[simp] theorem run_cons (s : Countdown) (m : Move) (ms : List Move) :
    s.run (m :: ms) = (s.step m).run ms := rfl

theorem run_append (s : Countdown) (ms ms' : List Move) : s.run (ms ++ ms') = (s.run ms).run ms' :=
  List.foldl_append _ _ _ _

/-- A property every move keeps holds after every schedule. -/
theorem run_inv {P : Countdown → Prop} (hP : ∀ s m, P s → P (s.step m)) {s : Countdown}
    (h : P s) (ms : List Move) : P (s.run ms) := by
  induction ms generalizing s with
  | nil => exact h
  | cons m ms ih => exact ih (hP s m h)

/-! ## Termination -/

/-- The loop body is entered only when `seconds` is not `0`. -/
def Live (s : Countdown) : Prop := s.pc = .body → s.seconds.val ≠ 0

theorem Live.step {s : Countdown} (h : s.Live) : ∀ m, (s.step m).Live
  | .key => h
  | .countdown => by
    cases hpc : s.pc <;> simp [Live, Countdown.step, hpc]
    exact fun h _ => h

/-- The statements `countdown` has still to run before it returns: two for
    each decrement of `seconds` left to `0`, wrap included, and the arming,
    the last test, the read and the clear. -/
def fuel (s : Countdown) : Nat :=
  match s.pc with
  | .arm => 2 * s.seconds.toUnsigned + 4
  | .test => 2 * s.seconds.toUnsigned + 3
  | .body => 2 * s.seconds.toUnsigned + 2
  | .read => 2
  | .clear => 1
  | .done => 0

theorem fuel_step {s : Countdown} (h : s.Live) : (s.step .countdown).fuel ≤ s.fuel - 1 := by
  cases hpc : s.pc <;> simp only [Countdown.step, fuel, hpc]
  · omega
  · split_ifs <;> simp only <;> omega
  · have := CInt.toUnsigned_dec (h hpc)
    omega
  all_goals omega

/-- **`countdown` returns.** On every `int`, a schedule that gives it `fuel`
    moves of its own brings it to its return, whatever key events it holds. -/
theorem run_done {s : Countdown} (h : s.Live) {ms : List Move}
    (hf : s.fuel ≤ ms.count .countdown) : (s.run ms).pc = .done := by
  induction ms generalizing s with
  | nil =>
    cases hpc : s.pc <;> simp_all [fuel]
  | cons m ms ih =>
    cases m with
    | key => exact ih (h.step .key) (by simpa [fuel, Countdown.step] using hf)
    | countdown =>
      have := fuel_step h
      exact ih (h.step .countdown) (by simp at hf; omega)

/-! ## The value `countdown` returns -/

/-- What `countdown` returns when no further key event reaches it armed. -/
def outcome (s : Countdown) : Bool :=
  match s.pc with
  | .arm => true
  | .test | .body | .read => s.enabled
  | .clear | .done => s.ret

/-- Only a key event that reaches the armed countdown changes its outcome. -/
theorem outcome_step (s : Countdown) (m : Move) :
    (s.step m).outcome = (s.outcome && !decide (m = .key ∧ s.armed = true)) := by
  cases m <;> cases hpc : s.pc <;> simp [step, outcome, armed, hpc]
  split_ifs <;> rfl

theorem run_ret {s : Countdown} {ms : List Move} (h : (s.run ms).pc = .done) :
    (s.run ms).ret = (s.outcome && (s.firstKey ms).isNone) := by
  induction ms generalizing s with
  | nil => simp_all [outcome, firstKey]
  | cons m ms ih =>
    rw [run_cons, ih h, outcome_step, firstKey]
    by_cases hk : m = .key ∧ s.armed = true <;> simp [hk]

/-! ## After a key event -/

/-- The iterations a countdown whose flag is down can still make: one, when
    it is in the loop body. -/
def bound (s : Countdown) : Nat := s.iters + if s.pc = .body then 1 else 0

/-- The flag is down after the arming. -/
def Stopped (s : Countdown) : Prop := s.pc ≠ .arm ∧ s.enabled = false

theorem Stopped.step {s : Countdown} (h : s.Stopped) (m : Move) :
    (s.step m).Stopped ∧ (s.step m).bound ≤ s.bound := by
  obtain ⟨h₁, h₂⟩ := h
  cases m
  · cases hpc : s.pc <;> simp_all [Countdown.step, Stopped, bound]
  · exact ⟨⟨h₁, rfl⟩, le_refl _⟩

theorem run_iters_le {s : Countdown} (h : s.Stopped) (ms : List Move) :
    (s.run ms).iters ≤ s.bound := by
  induction ms generalizing s with
  | nil => simp [bound]
  | cons m ms ih => exact (ih (h.step m).1).trans (h.step m).2

/-- Where the first key event that reaches the armed countdown falls. -/
theorem firstKey_eq_some {s : Countdown} {ms : List Move} {k : Nat} (h : s.firstKey ms = some k) :
    ∃ ms₁ ms₂, ms = ms₁ ++ .key :: ms₂ ∧ (s.run ms₁).armed = true ∧ (s.run ms₁).iters = k := by
  induction ms generalizing s with
  | nil => cases h
  | cons m ms ih =>
    rw [firstKey] at h
    split_ifs at h with hk
    · obtain ⟨rfl, ha⟩ := hk
      exact ⟨[], ms, rfl, ha, Option.some.inj h⟩
    · obtain ⟨ms₁, ms₂, rfl, ha, hi⟩ := ih h
      exact ⟨m :: ms₁, ms₂, rfl, ha, hi⟩

/-- When the first key event that reaches the armed countdown falls in
    iteration `k`, the countdown makes at most `k + 1` iterations. -/
theorem run_iters_le_of_firstKey {s : Countdown} {ms : List Move} {k : Nat}
    (h : s.firstKey ms = some k) : (s.run ms).iters ≤ k + 1 := by
  obtain ⟨ms₁, ms₂, rfl, ha, rfl⟩ := firstKey_eq_some h
  have hstop : ((s.run ms₁).step .key).Stopped :=
    ⟨fun h => by
      change (s.run ms₁).pc = .arm at h
      simp [armed, h] at ha, rfl⟩
  calc (s.run (ms₁ ++ .key :: ms₂)).iters = (((s.run ms₁).step .key).run ms₂).iters := by
        rw [run_append, run_cons]
    _ ≤ ((s.run ms₁).step .key).bound := run_iters_le hstop ms₂
    _ ≤ (s.run ms₁).iters + 1 := by simp only [bound, Countdown.step]; split_ifs <;> omega

/-! ## With no key event -/

/-- With no key event, the loop from its test with the flag up and `seconds`
    negative makes `n` iterations, each taking one off `seconds`, while
    `seconds` stays at or above `INT_MIN`. -/
theorem run_down (n : Nat) :
    ∀ s : Countdown, s.pc = .test → s.enabled = true → s.seconds.val < 0 →
      INT_MIN + n ≤ s.seconds.val →
      let t := s.run (List.replicate (2 * n) .countdown)
      t.pc = .test ∧ t.enabled = true ∧ t.seconds.val = s.seconds.val - n ∧
        t.iters = s.iters + n ∧ t.wrapped = s.wrapped := by
  induction n with
  | zero => intro s hpc he _ _; simp [hpc, he]
  | succ n ih =>
    intro s hpc he hneg hmin
    have h0 : s.seconds.val ≠ 0 := by omega
    have hm : s.seconds.val ≠ INT_MIN := by omega
    have hs : (s.step .countdown).step .countdown =
        { s with seconds := s.seconds.dec, iters := s.iters + 1 } := by
      simp [Countdown.step, hpc, h0, he, hm]
    have hdec := CInt.dec_val hm
    rw [show 2 * (n + 1) = 2 * n + 1 + 1 by omega, List.replicate_succ, List.replicate_succ,
      run_cons, run_cons, hs]
    obtain ⟨h₁, h₂, h₃, h₄, h₅⟩ := ih { s with seconds := s.seconds.dec, iters := s.iters + 1 }
      hpc he (by simp only [hdec]; omega) (by simp only [hdec]; push_cast at hmin ⊢; omega)
    refine ⟨h₁, h₂, ?_, ?_, h₅⟩
    · rw [h₃]; simp only [hdec]; push_cast; ring
    · rw [h₄]; dsimp only; omega

end Countdown

/-! ## A negative delay -/

/-- **A negative delay drives `seconds` to `INT_MIN`.** For every `int`
    `d < 0` (every negative value `atoi` gives for `droidboot.delay`) and
    every value of the flag before the call, with no key event `countdown`
    does not return: after `d - INT_MIN` one-second iterations, with no
    decrement wrapped so far, its loop body runs `seconds--` on
    `seconds = INT_MIN`, which C leaves undefined. -/
theorem countdown_reaches_int_min (d : CInt) (hd : d.val < 0) (e : Bool) :
    let s := (Countdown.start d e).run (List.replicate (2 * (d.val - INT_MIN).toNat + 2) .countdown)
    s.pc = .body ∧ s.seconds.val = INT_MIN ∧ s.iters = (d.val - INT_MIN).toNat ∧ s.wrapped = false ∧
      (s.step .countdown).wrapped = true := by
  intro s
  have hk : ((d.val - INT_MIN).toNat : Int) = d.val - INT_MIN := Int.toNat_of_nonneg (by
    have := d.min_le; omega)
  have hs : s = (Countdown.run ⟨.test, d, true, 0, false, false⟩
      (List.replicate (2 * (d.val - INT_MIN).toNat) .countdown)).step .countdown := by
    show Countdown.run _ _ = _
    rw [List.replicate_succ, List.replicate_succ', Countdown.run_cons, Countdown.run_append]
    rfl
  obtain ⟨h₁, h₂, h₃, h₄, h₅⟩ := Countdown.run_down (d.val - INT_MIN).toNat
    ⟨.test, d, true, 0, false, false⟩ rfl rfl hd (by dsimp only; omega)
  generalize Countdown.run _ _ = t at hs h₁ h₂ h₃ h₄ h₅
  have hmin : t.seconds.val = INT_MIN := by rw [h₃]; dsimp only; omega
  have hb : t.step .countdown = { t with pc := .body } := by
    simp [Countdown.step, h₁, h₂, hmin, INT_MIN]
  rw [hs, hb]
  exact ⟨rfl, hmin, h₄.trans (Nat.zero_add _), h₅, by simp [Countdown.step, hmin]⟩

/-- `droidboot.delay=-1`: the countdown makes `2^31 - 1` iterations, not at
    most `max (-1) 0 = 0`, and then runs `seconds--` on `INT_MIN`. -/
theorem countdown_delay_minus_one :
    importKernelCmdline true (Config.initial "data".toList) ["droidboot.delay=-1".toList] =
        some { Config.initial "data".toList with gAutobootDelaySecs := atoi "-1".toList } ∧
      (atoi "-1".toList).val < 0 ∧ ((atoi "-1".toList).val - INT_MIN).toNat = 2147483647 ∧
      let s := (Countdown.start (atoi "-1".toList) true).run
        (List.replicate (2 * ((atoi "-1".toList).val - INT_MIN).toNat + 2) .countdown)
      s.pc = .body ∧ s.seconds.val = INT_MIN ∧ s.iters = ((atoi "-1".toList).val - INT_MIN).toNat ∧
        s.wrapped = false ∧ (s.step .countdown).wrapped = true :=
  ⟨by decide, by decide, by decide, countdown_reaches_int_min (atoi "-1".toList) (by decide) true⟩

end Droidboot
