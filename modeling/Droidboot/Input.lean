/-
  Droidboot formalization — the input thread statement by statement, beside
  `countdown` (`droidboot.c`, lines 246–268 and 331–366; spec §4.4).

  `input_listener_thread` hands each input event to `input_callback`, which
  runs `disable_autoboot` on an `EV_KEY` event: it tests `autoboot_enabled`,
  and stores `0` when the test read `1`.  The test and the store are two
  moves of the thread, and the countdown may move between them.

  * `Threads.run_cd`: a run of the two threads is the run of `Countdown` in
    which each store of `disable_autoboot` is a key move (`Threads.coarsen`);
  * `Countdown.run_law`: the countdown law on every `int`, counted by
    `CInt.toUnsigned`;
  * `countdown_law_input`: for every length `D ≥ 0` and every interleaving
    of the two threads, `countdown` returns `1` exactly when no store of
    `disable_autoboot` reaches it armed, and then after `D` iterations;
    `countdown_key_stored_after_read`: a key event dispatched while it is
    armed, whose test reads the flag up but whose store comes after the
    final read, does not stop it;
  * `Countdown.expect_run`: every move keeps what the window model
    `countdownLoop` still computes (`expect`), with the key events in the
    windows they fall in (`keyWindows`);
  * `countdown_input_window_model`: every interleaving of the two threads
    ends as the window model `countdown` does, which `System` runs as one
    move, with a key event in each window a store of `disable_autoboot`
    reached.
-/
import Droidboot.Countdown

namespace Droidboot

/-! ## A countdown on any `int` -/

namespace Countdown

/-- What holds in every state of a countdown started on any `int`, whose
    length is the count of decrements `CInt.toUnsigned` gives. -/
structure Tally (N : Nat) (s : Countdown) : Prop where
  tally : s.iters + s.seconds.toUnsigned = N
  read_exit : s.pc = .read → s.seconds.val = 0 ∨ s.enabled = false
  ret_exit : s.pc = .clear ∨ s.pc = .done → s.seconds.val = 0 ∨ s.ret = false
  done_off : s.pc = .done → s.enabled = false

theorem Tally.step {N : Nat} {s : Countdown} (h : Tally N s) (hl : s.Live) :
    ∀ m, Tally N (s.step m)
  | .key => ⟨h.tally, fun _ => .inr rfl, h.ret_exit, fun _ => rfl⟩
  | .countdown => by
    obtain ⟨h₁, h₂, h₃, h₄⟩ := h
    cases hpc : s.pc <;> simp only [Countdown.step, hpc]
    · exact ⟨h₁, nofun, by simp, nofun⟩
    · split_ifs with hc
      · exact ⟨h₁, nofun, by simp, nofun⟩
      · refine ⟨h₁, fun _ => ?_, by simp, nofun⟩
        by_cases hs : s.seconds.val = 0
        · exact .inl hs
        · exact .inr (by simpa [hs] using hc)
    · refine ⟨?_, nofun, by simp, nofun⟩
      have := CInt.toUnsigned_dec (hl hpc)
      simp only
      omega
    · exact ⟨h₁, nofun, fun _ => h₂ hpc, nofun⟩
    · exact ⟨h₁, nofun, fun _ => h₃ (.inl hpc), fun _ => rfl⟩
    · exact ⟨h₁, h₂, h₃, h₄⟩

theorem Tally.iters_of_ret {N : Nat} {s : Countdown} (h : Tally N s) (hd : s.pc = .done)
    (hr : s.ret = true) : s.iters = N := by
  have := h.tally
  rcases h.ret_exit (.inr hd) with h0 | h0
  · rw [CInt.toUnsigned_eq_zero.2 h0] at this
    omega
  · simp [h0] at hr

/-- The countdown law on every `int` `D`, for every schedule that gives the
    countdown `2 * D.toUnsigned + 4` moves. -/
theorem run_law (D : CInt) (e : Bool) (sched : List Move)
    (hfuel : 2 * D.toUnsigned + 4 ≤ sched.count .countdown) :
    let s := (start D e).run sched
    s.pc = .done ∧ s.enabled = false ∧ (s.ret = true ↔ (start D e).firstKey sched = none) ∧
      (s.ret = true → s.iters = D.toUnsigned) ∧
      ∀ k, (start D e).firstKey sched = some k → s.iters ≤ k + 1 ∧ s.ret = false := by
  intro s
  have hinv : s.Live ∧ Tally D.toUnsigned s :=
    @run_inv (fun s => s.Live ∧ Tally D.toUnsigned s) (fun _ m h => ⟨h.1.step m, h.2.step h.1 m⟩)
      (start D e) ⟨by simp [Live, start], ⟨by simp [start], nofun, nofun, nofun⟩⟩ sched
  have hdone : s.pc = .done := run_done (by simp [Live, start]) (by simpa [fuel, start] using hfuel)
  have hret : s.ret = ((start D e).firstKey sched).isNone := by
    simpa [outcome, start] using run_ret hdone
  exact ⟨hdone, hinv.2.done_off hdone, by rw [hret]; simp [Option.isNone_iff_eq_none],
    hinv.2.iters_of_ret hdone, fun k hk => ⟨run_iters_le_of_firstKey hk, by rw [hret, hk]; rfl⟩⟩

/-! ## The window model is exact -/

/-- The window of `countdownLoop` a key event falls in from `s`: before the
    check of the flag at `iters` while the countdown is at that check (or not
    yet armed), and before the next check, or the final read, once it is past
    it. -/
def window (s : Countdown) : Nat :=
  match s.pc with
  | .arm | .test => s.iters
  | _ => s.iters + 1

/-- The windows of the key events of the schedule that reach the armed
    countdown. -/
def keyWindows (s : Countdown) : List Move → List Nat
  | [] => []
  | m :: ms => (if m = .key ∧ s.armed = true then [s.window] else []) ++ (s.step m).keyWindows ms

/-- What the window model still computes from `s`, with a key event in each
    window `K` names from here on. -/
def expect (K : Nat → Bool) (s : Countdown) : Nat × Bool :=
  match s.pc with
  | .arm => countdownLoop K s.seconds.toUnsigned s.iters true
  | .test => countdownLoop K s.seconds.toUnsigned s.iters s.enabled
  | .body => countdownLoop K (s.seconds.toUnsigned - 1) (s.iters + 1) s.enabled
  | .read => (s.iters, s.enabled && !K (s.iters + 1))
  | .clear | .done => (s.iters, s.ret)

/-- The windows only move forward. -/
theorem window_step (s : Countdown) : ∀ m, s.window ≤ (s.step m).window
  | .key => le_refl _
  | .countdown => by
    cases hpc : s.pc <;> simp only [Countdown.step, window, hpc, le_refl]
    case test => split_ifs <;> simp

theorem keyWindows_append (s : Countdown) (ms ms' : List Move) :
    s.keyWindows (ms ++ ms') = s.keyWindows ms ++ (s.run ms).keyWindows ms' := by
  induction ms generalizing s with
  | nil => rfl
  | cons m ms ih => simp [keyWindows, ih]

theorem keyWindows_ge (s : Countdown) (ms : List Move) : ∀ w ∈ s.keyWindows ms, s.window ≤ w := by
  induction ms generalizing s with
  | nil => nofun
  | cons m ms ih =>
    intro w hw
    rcases List.mem_append.1 hw with hw | hw
    · split_ifs at hw
      · exact le_of_eq (List.mem_singleton.1 hw).symm
      · cases hw
    · exact (window_step s m).trans (ih _ w hw)

/-- A countdown that has made its final read is never armed again. -/
theorem keyWindows_of_read {s : Countdown} (h : s.pc = .clear ∨ s.pc = .done) (ms : List Move) :
    s.keyWindows ms = [] := by
  induction ms generalizing s with
  | nil => rfl
  | cons m ms ih =>
    have ha : s.armed = false := by rcases h with h | h <;> simp [armed, h]
    have h' : (s.step m).pc = .clear ∨ (s.step m).pc = .done := by
      cases m <;> rcases h with h | h <;> simp [Countdown.step, h]
    simp [keyWindows, ha, ih h']

/-- A move of the countdown keeps what the window model computes, once no
    key event can come in the window it leaves. -/
theorem expect_countdown {K : Nat → Bool} {s : Countdown} (hl : s.Live)
    (ht : s.pc = .test → K s.iters = false) (hr : s.pc = .read → K (s.iters + 1) = false) :
    expect K (s.step .countdown) = expect K s := by
  cases hpc : s.pc <;> simp only [Countdown.step, expect, hpc]
  case test =>
    have hK := ht hpc
    split_ifs with hc
    · obtain ⟨n, hn⟩ : ∃ n, s.seconds.toUnsigned = n + 1 :=
        ⟨s.seconds.toUnsigned - 1, by have := CInt.toUnsigned_eq_zero.not.2 hc.1; omega⟩
      simp [hn, countdownLoop, hc.2, hK]
    · cases hn : s.seconds.toUnsigned with
      | zero => simp [countdownLoop, hK]
      | succ n =>
        have : s.enabled = false := by
          by_contra he
          exact hc ⟨CInt.toUnsigned_eq_zero.not.1 (by omega), by simpa using he⟩
        simp [countdownLoop, this]
  case body =>
    have := CInt.toUnsigned_dec (hl hpc)
    congr 1
    omega
  case read => simp [hr hpc]

/-- A key event that reaches the armed countdown in its window `s.window`
    ends the window model there. -/
theorem expect_key {K : Nat → Bool} {s : Countdown} (ha : s.armed = true) :
    expect (fun j => decide (j = s.window) || K j) s = expect K (s.step .key) := by
  cases hpc : s.pc <;> simp [armed, hpc] at ha <;>
    simp only [Countdown.step, expect, window, hpc]
  · cases s.seconds.toUnsigned <;> simp [countdownLoop]
  · cases s.seconds.toUnsigned - 1 <;> simp [countdownLoop]
  · simp

/-- A key event before the arming or after the final read changes nothing. -/
theorem expect_key_off {K : Nat → Bool} {s : Countdown} (ha : s.armed = false) :
    expect K s = expect K (s.step .key) := by
  cases hpc : s.pc <;> simp [armed, hpc] at ha <;> simp [Countdown.step, expect, hpc]

/-- **The window model of a run.** From any state, what the window model
    computes with the windows of the schedule's key events is what it
    computes from the state the schedule leads to. -/
theorem expect_run {s : Countdown} (hl : s.Live) (ms : List Move) :
    expect (fun j => decide (j ∈ s.keyWindows ms)) s = expect (fun _ => false) (s.run ms) := by
  induction ms generalizing s with
  | nil => rfl
  | cons m ms ih =>
    rw [run_cons, ← ih (hl.step m)]
    cases m with
    | countdown =>
      have hge := keyWindows_ge (s.step .countdown) ms
      simp only [keyWindows, List.nil_append, reduceCtorEq, false_and, if_false]
      refine (expect_countdown hl (fun hpc => ?_) (fun hpc => ?_)).symm
      · have hw : (s.step .countdown).window = s.iters + 1 := by
          simp only [Countdown.step, window, hpc]
          split_ifs <;> rfl
        simpa using fun h => absurd (hge _ h) (by omega)
      · have hc : (s.step .countdown).pc = .clear := by simp [Countdown.step, hpc]
        simp [keyWindows_of_read (.inl hc)]
    | key =>
      by_cases ha : s.armed = true
      · simp only [keyWindows, ha, and_self, if_true, List.singleton_append, List.mem_cons]
        rw [← expect_key ha]
        simp
      · simp only [keyWindows, ha, and_false, if_false, List.nil_append]
        exact expect_key_off (by simpa using ha)

/-- **The window model is exact.** For every `int` and every schedule that
    gives `countdown` its `2 * D.toUnsigned + 4` moves, the statement-level
    run returns what `countdown` of the window model returns with a key
    event in each window where a key event reached the armed countdown. -/
theorem run_window_model (D : CInt) (e : Bool) (sched : List Move)
    (hfuel : 2 * D.toUnsigned + 4 ≤ sched.count .countdown) :
    ((start D e).run sched).iters = (countdown (fun j => decide (j ∈ (start D e).keyWindows sched)) D).1 ∧
      ((start D e).run sched).ret = (countdown (fun j => decide (j ∈ (start D e).keyWindows sched)) D).2 := by
  have hdone : ((start D e).run sched).pc = .done :=
    run_done (by simp [Live, start]) (by simpa [fuel, start] using hfuel)
  have h := @expect_run (start D e) (by simp [Live, start]) sched
  simp only [expect, hdone] at h
  simp only [start] at h
  exact ⟨(Prod.ext_iff.1 h).1.symm, (Prod.ext_iff.1 h).2.symm⟩

end Countdown

/-! ## The input thread -/

/-- `EV_KEY` of `linux/input.h`. -/
def EV_KEY : UInt16 := 0x01

/-- A `struct input_event` as `input_callback` reads it: its `type`, the only
    field it tests. -/
structure InputEvent where
  type : UInt16
deriving DecidableEq

/-- `input_callback(fd, revents, data)` on what `ev_get_input` reads (`none`
    when it fails): its return value, and whether it runs `disable_autoboot`. -/
def inputCallback : Option InputEvent → Int × Bool
  | none => (-1, false)
  | some ev => (0, ev.type == EV_KEY)

/-- Where the input thread is. -/
inductive InputPc
  /-- in `ev_wait`, between two events -/
  | idle
  /-- in `disable_autoboot`, before `if (autoboot_enabled)` -/
  | test
  /-- in `disable_autoboot`, before `autoboot_enabled = 0` -/
  | store
deriving DecidableEq

/-- A move of an interleaving of `countdown` with the input thread. -/
inductive InputMove
  /-- the countdown runs its next statement -/
  | countdown
  /-- `ev_dispatch` hands what `ev_get_input` reads to `input_callback` -/
  | dispatch (ev : Option InputEvent)
  /-- the input thread runs its next statement of `disable_autoboot` -/
  | input
deriving DecidableEq

/-- The countdown and the input thread. -/
structure Threads where
  cd : Countdown
  input : InputPc

namespace Threads

/-- `countdown(action, seconds)` called with the flag at `enabled`, the input
    thread waiting. -/
def start (seconds : CInt) (enabled : Bool) : Threads := ⟨Countdown.start seconds enabled, .idle⟩

/-- One move. The input thread takes an event only between two events. -/
def step (t : Threads) : InputMove → Threads
  | .countdown => { t with cd := t.cd.step .countdown }
  | .dispatch ev =>
    match t.input with
    | .idle => if (inputCallback ev).2 then { t with input := .test } else t
    | _ => t
  | .input =>
    match t.input with
    | .idle => t
    | .test => { t with input := if t.cd.enabled then .store else .idle }
    | .store => ⟨t.cd.step .key, .idle⟩

/-- A run of the two threads. -/
def run (t : Threads) (ms : List InputMove) : Threads := ms.foldl step t

/-- The moves of `Countdown` a move makes: the store of `disable_autoboot`
    is a key move. -/
def moves (t : Threads) : InputMove → List Move
  | .countdown => [.countdown]
  | .dispatch _ => []
  | .input => if t.input = .store then [.key] else []

/-- The schedule of `Countdown` a run makes. -/
def coarsen (t : Threads) : List InputMove → List Move
  | [] => []
  | m :: ms => t.moves m ++ (t.step m).coarsen ms

/-- The iteration during which the first store of `disable_autoboot` reaches
    the armed countdown, if one does. -/
def firstStore (t : Threads) : List InputMove → Option Nat
  | [] => none
  | m :: ms =>
    if m = .input ∧ t.input = .store ∧ t.cd.armed = true then some t.cd.iters
    else (t.step m).firstStore ms

/-- `input_callback` leaves the countdown as it is. -/
theorem step_dispatch_cd (t : Threads) (ev : Option InputEvent) : (t.step (.dispatch ev)).cd = t.cd := by
  cases h : t.input <;> simp only [step, h]
  split_ifs <;> rfl

theorem step_cd (t : Threads) (m : InputMove) : (t.step m).cd = t.cd.run (t.moves m) := by
  cases m with
  | countdown => rfl
  | dispatch ev => exact step_dispatch_cd t ev
  | input => cases h : t.input <;> simp [step, moves, h]

/-- **A run of the two threads is a run of `Countdown`.** -/
theorem run_cd (t : Threads) (ms : List InputMove) : (t.run ms).cd = t.cd.run (t.coarsen ms) := by
  induction ms generalizing t with
  | nil => rfl
  | cons m ms ih =>
    show ((t.step m).run ms).cd = _
    rw [ih, coarsen, Countdown.run_append, step_cd]

theorem count_coarsen (t : Threads) (ms : List InputMove) :
    (t.coarsen ms).count .countdown = ms.count .countdown := by
  induction ms generalizing t with
  | nil => rfl
  | cons m ms ih =>
    rw [coarsen, List.count_append, ih]
    cases m with
    | countdown => simp [moves, Nat.add_comm]
    | dispatch ev => simp [moves]
    | input => by_cases h : t.input = .store <;> simp [moves, h]

theorem firstStore_eq (t : Threads) (ms : List InputMove) :
    t.firstStore ms = t.cd.firstKey (t.coarsen ms) := by
  induction ms generalizing t with
  | nil => rfl
  | cons m ms ih =>
    rw [firstStore, coarsen, ih]
    cases m with
    | countdown => simp [moves, Countdown.firstKey, step]
    | dispatch ev => simp [moves, step_dispatch_cd]
    | input =>
      cases h : t.input with
      | idle => simp [moves, h, step]
      | test => simp [moves, h, step]
      | store =>
        simp only [moves, h, if_true, List.singleton_append, Countdown.firstKey, true_and]
        simp [step, h]

/-- The windows in which the stores of `disable_autoboot` reach the armed
    countdown. -/
def storeWindows (t : Threads) : List InputMove → List Nat
  | [] => []
  | m :: ms =>
    (if m = .input ∧ t.input = .store ∧ t.cd.armed = true then [t.cd.window] else []) ++
      (t.step m).storeWindows ms

theorem storeWindows_eq (t : Threads) (ms : List InputMove) :
    t.storeWindows ms = t.cd.keyWindows (t.coarsen ms) := by
  induction ms generalizing t with
  | nil => rfl
  | cons m ms ih =>
    rw [storeWindows, coarsen, ih, Countdown.keyWindows_append, ← step_cd]
    congr 1
    cases m with
    | countdown => simp [moves, Countdown.keyWindows]
    | dispatch ev => rfl
    | input => by_cases h : t.input = .store <;> simp [moves, h, Countdown.keyWindows]

end Threads

/-! ## The countdown law, statement by statement -/

/-- **The countdown law for `disable_autoboot` statement by statement.** For
    every length `D ≥ 0`, every value of the flag before the call, and every
    interleaving of `countdown` with the input thread, which runs the test and
    the store of `disable_autoboot` as two moves for each `EV_KEY` event,
    that gives the countdown `2D + 4` moves: `countdown` returns with the flag
    down; it returns `1` exactly when no store `autoboot_enabled = 0` is made
    while it is armed, and then after `D` iterations; when the first such
    store falls in iteration `k`, it returns `0` after at most `k + 1`
    iterations. -/
theorem countdown_law_input (D : CInt) (hD : 0 ≤ D.val) (e : Bool) (ms : List InputMove)
    (hfuel : 2 * D.val.toNat + 4 ≤ ms.count .countdown) :
    let t := (Threads.start D e).run ms
    t.cd.pc = .done ∧ t.cd.enabled = false ∧
      (t.cd.ret = true ↔ (Threads.start D e).firstStore ms = none) ∧
      (t.cd.ret = true → t.cd.iters = D.val.toNat) ∧
      ∀ k, (Threads.start D e).firstStore ms = some k → t.cd.iters ≤ k + 1 ∧ t.cd.ret = false := by
  intro t
  rw [show t.cd = _ from Threads.run_cd _ ms, Threads.firstStore_eq, ← CInt.toUnsigned_of_nonneg hD]
  rw [← CInt.toUnsigned_of_nonneg hD, ← Threads.count_coarsen] at hfuel
  exact Countdown.run_law D e _ hfuel

/-- The one-second countdown, with the flag at `0` before the call: a key
    event is dispatched in its first iteration and its test reads the flag
    up, but its store lands after the final read; no store reached the
    armed countdown, which returns `1`. -/
theorem countdown_law_input_store_after_read :
    let ms := [InputMove.countdown, .dispatch (some ⟨EV_KEY⟩), .input, .countdown, .countdown,
      .countdown, .countdown, .input, .countdown]
    let t := (Threads.start (CInt.ofNat 1) false).run ms
    (Threads.start (CInt.ofNat 1) false).firstStore ms = none ∧
      0 ≤ (CInt.ofNat 1).val ∧ 2 * (CInt.ofNat 1).val.toNat + 4 ≤ ms.count .countdown ∧
      t.cd.pc = .done ∧ t.cd.enabled = false ∧
      (t.cd.ret = true ↔ (Threads.start (CInt.ofNat 1) false).firstStore ms = none) ∧
      (t.cd.ret = true → t.cd.iters = (CInt.ofNat 1).val.toNat) ∧
      ∀ k, (Threads.start (CInt.ofNat 1) false).firstStore ms = some k →
        t.cd.iters ≤ k + 1 ∧ t.cd.ret = false :=
  ⟨by decide, by decide, by decide, countdown_law_input (CInt.ofNat 1) (by decide) false _ (by decide)⟩

/-- A key event dispatched while the countdown is armed does not always stop
    it: in the one-second countdown, an `EV_KEY` event comes during
    iteration `0` and `disable_autoboot`'s test reads the flag up, but its
    store lands after the final read, and `countdown` returns `1` after one
    iteration. -/
theorem countdown_key_stored_after_read :
    let t₀ := Threads.start (CInt.ofNat 1) false
    let t := t₀.run [.countdown, .dispatch (some ⟨EV_KEY⟩), .input, .countdown, .countdown,
      .countdown, .countdown, .input, .countdown]
    (t₀.run [.countdown]).cd.armed = true ∧ (t₀.run [.countdown]).cd.iters = 0 ∧
      (inputCallback (some ⟨EV_KEY⟩)).2 = true ∧
      (t₀.run [.countdown, .dispatch (some ⟨EV_KEY⟩), .input]).input = .store ∧
      t.cd.pc = .done ∧ t.cd.ret = true ∧ t.cd.iters = 1 := by
  decide

/-- **The window model is exact for the two threads.** For every `int` `D`,
    every value of the flag before the call, and every interleaving of
    `countdown` with the input thread that gives the countdown
    `2 * D.toUnsigned + 4` moves, `countdown` returns after the iterations,
    and with the value, that the window model `countdown` of the thread model
    gives with a key event in each window in which a store
    `autoboot_enabled = 0` of `disable_autoboot` reached the armed countdown. -/
theorem countdown_input_window_model (D : CInt) (e : Bool) (ms : List InputMove)
    (hfuel : 2 * D.toUnsigned + 4 ≤ ms.count .countdown) :
    let t := (Threads.start D e).run ms
    (t.cd.iters, t.cd.ret) = countdown (fun j => decide (j ∈ (Threads.start D e).storeWindows ms)) D := by
  intro t
  rw [show t.cd = _ from Threads.run_cd _ ms, Threads.storeWindows_eq]
  obtain ⟨h₁, h₂⟩ := Countdown.run_window_model D e ((Threads.start D e).coarsen ms)
    (by rw [Threads.count_coarsen]; exact hfuel)
  exact Prod.ext h₁ h₂

/-- A key event during the first second of a two-second countdown, whose store
    lands before the loop's second check: the countdown stops after one
    iteration and returns `0`, as `countdown` with a key in window `1`. -/
theorem countdown_input_window_model_second_check :
    let ms := [InputMove.countdown, .countdown, .dispatch (some ⟨EV_KEY⟩), .input, .input, .countdown,
      .countdown, .countdown, .countdown, .countdown, .countdown]
    let t := (Threads.start (CInt.ofNat 2) true).run ms
    (Threads.start (CInt.ofNat 2) true).storeWindows ms = [1] ∧
      2 * (CInt.ofNat 2).toUnsigned + 4 ≤ ms.count .countdown ∧
      (t.cd.iters, t.cd.ret) =
        countdown (fun j => decide (j ∈ (Threads.start (CInt.ofNat 2) true).storeWindows ms)) (CInt.ofNat 2) :=
  ⟨by decide, by decide, countdown_input_window_model (CInt.ofNat 2) true _ (by decide)⟩

end Droidboot
