/-
  Droidboot formalization — the autoboot countdown and the boot launcher of
  `droidboot.c` (spec §4.4, §4.5).

  * `countdownLoop` is the loop `for ( ; seconds && autoboot_enabled;
    seconds--)` of `countdown`, with the input thread's key events placed
    between the loop's reads of `autoboot_enabled`; `countdown` arms the flag
    and runs it, and `countdown_complete` says it runs out exactly when no
    key event comes in any window;
  * `startDefaultKernel` mounts the second-stage partition and hands
    `/mnt/<part>/<dir>/` to `kexec_linux`.

  `autoboot_thread`, the countdown followed by `start_default_kernel`, runs
  beside the command loop; its moves are `autobootStep` of `System`.
-/
import Droidboot.World

namespace Droidboot

variable (w : World)

/-! ## The countdown -/

/-- The loop of `countdown` from its `j`-th check on: `n` decrements of
    `seconds` are left before it reaches `0`, and `enabled` is
    `autoboot_enabled` before window `j`, in which the input thread may clear
    it (`keyIn j`, through `disable_autoboot`). With `seconds` at `0` the
    check does not read the flag; the final `ret = autoboot_enabled` reads it
    after window `j + 1`. The result is the number of iterations and `ret`. -/
def countdownLoop (keyIn : Nat → Bool) : (n j : Nat) → (enabled : Bool) → Nat × Bool
  | 0, j, enabled => (j, enabled && !keyIn j && !keyIn (j + 1))
  | n + 1, j, enabled =>
    if enabled && !keyIn j then countdownLoop keyIn n (j + 1) true else (j, false)

/-- `countdown(action, seconds)`: arm `autoboot_enabled` and run the loop. -/
def countdown (keyIn : Nat → Bool) (seconds : CInt) : Nat × Bool :=
  countdownLoop keyIn seconds.toUnsigned 0 true

/-- The loop runs out, from a raised flag at window `j`, exactly when no key
    event comes in the windows `j` to `j + n + 1`. -/
theorem countdownLoop_complete (keyIn : Nat → Bool) (n j : Nat) :
    (countdownLoop keyIn n j true).2 = true ↔ ∀ i ≤ n + 1, keyIn (j + i) = false := by
  induction n generalizing j with
  | zero =>
    simp only [countdownLoop, Bool.true_and, Bool.and_eq_true, Bool.not_eq_true']
    exact ⟨fun ⟨h₀, h₁⟩ i hi => by interval_cases i <;> assumption,
      fun h => ⟨h 0 (by omega), h 1 (by omega)⟩⟩
  | succ n ih =>
    cases hk : keyIn j with
    | true => exact ⟨by simp [countdownLoop, hk], fun h => absurd (h 0 (by omega)) (by simp [hk])⟩
    | false =>
      simp only [countdownLoop, hk, Bool.not_false, Bool.and_self, if_true, ih]
      constructor
      · intro h i hi
        cases i with
        | zero => exact hk
        | succ i => simpa [Nat.add_right_comm, Nat.add_assoc] using h i (by omega)
      · intro h i hi
        simpa [Nat.add_right_comm, Nat.add_assoc] using h (i + 1) (by omega)

/-- **The countdown runs out exactly when no key comes.** `countdown`
    returns `1` exactly when the input thread clears the flag in none of its
    `seconds.toUnsigned + 2` windows: before each check of the loop and
    before the final read. -/
theorem countdown_complete (keyIn : Nat → Bool) (seconds : CInt) :
    (countdown keyIn seconds).2 = true ↔ ∀ i ≤ seconds.toUnsigned + 1, keyIn i = false := by
  simpa using countdownLoop_complete keyIn seconds.toUnsigned 0

/-! ## The boot launcher -/

/-- The `basepath` of `start_default_kernel`: `/mnt/<part>/<dir>/`, cut by
    `snprintf` to `PATH_MAX - 1` characters. -/
def basepath (cfg : Config) : List Char :=
  ("/mnt/".toList ++ cfg.g2ndstagebootPart ++ "/".toList ++ cfg.g2ndstagebootDir ++
    "/".toList).take (PATH_MAX - 1)

/-- `start_default_kernel()`: `find_part` of the configured partition goes to
    `mount_partition` as it is, and `kexec_linux` returns only on failure. -/
def startDefaultKernel (cfg : Config) : Run Unit :=
  let ptn := w.findPart cfg.g2ndstagebootPart
  let st := w.mountPartition ptn
  if st ≠ 0 then ⟨[.mountPartition ptn st], .ok ()⟩
  else
    ⟨[.mountPartition ptn st, .kexecLinux (basepath cfg)],
      if w.kexecLinux (basepath cfg) then .error .kexec else .ok ()⟩

end Droidboot
