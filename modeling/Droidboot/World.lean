/-
  Droidboot formalization — what the engine observes and what it does.

  The engine calls out to libdiskconfig, the C library, the kernel and
  external programs; none of these is part of the engine, so each call's
  answer is read from a `World`, a record of the answers of every external
  call as a function of the call's arguments.  Quantifying over `World`s is
  quantifying over every outcome of the external steps.

  What the engine does is a `Run`: the `Event`s it emits, in order (protocol
  replies, device I/O, external programs, the storage lock), and either the
  value the call returns or the way it ended the process (`Halt`).
-/
import Droidboot.Config

namespace Droidboot

/-! ## Data of the collaborators -/

/-- Modelled from the spec: the partition types of libdiskconfig's
    `struct part_info` (spec §3, `type: enum{LINUX, OTHER...}`). -/
inductive PartType
  | PC_PART_TYPE_LINUX
  | other (code : Nat)
deriving DecidableEq

/-- A partition record of libdiskconfig (`struct part_info`). -/
structure PartInfo where
  name : List Char
  type : PartType
deriving DecidableEq

/-- A volume of `recovery.fstab` (`Volume`): the fields `detect_sw_update` reads. -/
structure Volume where
  mountPoint : List Char
  fsType : List Char
  device : List Char
  device2 : Option (List Char)
deriving DecidableEq

/-- `EXT3_SUPER_MAGIC` of `linux/ext3_fs.h`, the `s_magic` of ext3 and ext4. -/
def EXT3_SUPER_MAGIC : UInt16 := 0xEF53

/-- `EXT_SUPERBLOCK_OFFSET` (`aboot.c`, line 60). -/
def EXT_SUPERBLOCK_OFFSET : Int := 1024

/-- `sizeof(struct ext3_super_block)`. -/
def SUPERBLOCK_SIZE : Int := 1024

/-- `PATH_MAX` of `linux/limits.h`. -/
def PATH_MAX : Nat := 4096

/-- The system the engine runs on: the build's macros absent from the
    sources, the disk layout, and the answer of every external call. -/
structure World where
  /-- `DEVICE_NAME`, `CACHE_PTN` and `DATA_PTN` of the build -/
  DEVICE_NAME : List Char
  CACHE_PTN : List Char
  DATA_PTN : List Char
  /-- `disk_info->device`: the whole-disk node of the layout -/
  diskDevice : List Char
  findPart : List Char → Option PartInfo
  findPartDevice : List Char → Option (List Char)
  isValidBlkdev : List Char → Bool
  /-- whether allocating this text (`asprintf`, `strdup`) succeeds -/
  alloc : List Char → Bool
  popen : List Char → Bool
  /-- how many of `sz` bytes the pipeline started by the command accepts -/
  fwrite : List Char → Nat → Nat
  /-- the exit status `pclose` reports for the pipeline -/
  pclose : List Char → Int
  /-- `open(node, O_RDWR) >= 0` for the partition-table re-read -/
  openRw : List Char → Bool
  /-- `open`, `lseek` and `read` of the superblock of a node, and its `s_magic` -/
  superblockOpen : List Char → Bool
  superblockLseek : List Char → Int
  superblockRead : List Char → Int
  superblockMagic : List Char → UInt16
  executeCommand : List Char → Int
  writeStitchImage : CInt → Int
  applyDiskConfig : Int
  /-- whether `__reboot` restarts the device (it returns only on failure) -/
  reboot : Bool
  mountPartition : Option PartInfo → Int
  /-- whether `kexec_linux` passes control to the new kernel -/
  kexecLinux : List Char → Bool
  mountPartitionDevice : List Char → List Char → List Char → Int
  /-- whether `stat` of the file succeeds -/
  stat : List Char → Bool
  /-- the value `umount` of the mount point returns, which the code ignores -/
  umount : List Char → Int
  /-- whether a key event of the input thread reaches `try_update_sw`'s
      countdown in its `i`-th window (see `countdownLoop`) -/
  updateKeyIn : Nat → Bool
  /-- whether a key event of the input thread reaches the autoboot thread's
      countdown in its `i`-th window -/
  bootKeyIn : Nat → Bool
  /-- `platform_provision_function`: `none` when it is `NULL` -/
  platformProvisionFunction : Option Int
  ext4FilesystemChecks : List Char → PartInfo → Int
  erasePartition : PartInfo → Int

/-! ## Events and runs -/

/-- A protocol reply. -/
inductive Reply
  | okay (msg : String)
  | fail (reason : String)
deriving DecidableEq

/-- What the engine does that can be observed. -/
inductive Event
  | reply (r : Reply)
  | popen (cmd : List Char)
  | fwrite (sz written : Nat)
  | pclose (status : Int)
  | sync
  /-- the `BLKRRPART` ioctl on the node -/
  | blkrrpart (device : List Char)
  | executeCommand (cmd : List Char) (status : Int)
  | writeStitchImage (index : CInt) (status : Int)
  | applyDiskConfig (status : Int)
  | reboot
  | mountPartition (ptn : Option PartInfo) (status : Int)
  | kexecLinux (basepath : List Char)
  | mountPartitionDevice (device : List Char) (status : Int)
  | umount (mountpoint : List Char) (status : Int)
  | countdown (seconds : CInt) (complete : Bool)
  /-- `pthread_mutex_lock` and `pthread_mutex_unlock` of `action_mutex` -/
  | lock
  | unlock
  | platformProvision (status : Int)
  | ext4FilesystemChecks (device : List Char) (ptn : PartInfo) (status : Int)
  | erasePartition (ptn : PartInfo) (device : List Char) (status : Int)
  | applySwUpdate (location : List Char)
deriving DecidableEq

/-- The reply an event is, if it is one. -/
def Event.reply? : Event → Option Reply
  | .reply r => some r
  | _ => none

/-- How a call ends the process instead of returning. -/
inductive Halt
  | die
  | reboot
  | kexec
deriving DecidableEq

/-- A call of the engine: its events, then its value or how it halted. -/
structure Run (α : Type) where
  events : List Event
  result : Except Halt α

namespace Run

variable {α β : Type}

/-- The events `es`, then the run `r`. -/
def emit (es : List Event) (r : Run α) : Run α := ⟨es ++ r.events, r.result⟩

/-- The run `r`, then `f` of its value (when `r` returns). -/
def bind (r : Run α) (f : α → Run β) : Run β :=
  match r.result with
  | .ok a => (f a).emit r.events
  | .error h => ⟨r.events, .error h⟩

/-- The replies of a run, in order. -/
def replies (r : Run α) : List Reply := r.events.filterMap Event.reply?

@[simp] theorem emit_events (es : List Event) (r : Run α) :
    (r.emit es).events = es ++ r.events := rfl

@[simp] theorem emit_result (es : List Event) (r : Run α) : (r.emit es).result = r.result := rfl

@[simp] theorem replies_emit (es : List Event) (r : Run α) :
    (r.emit es).replies = es.filterMap Event.reply? ++ r.replies := by
  simp [replies]

@[simp] theorem replies_mk (es : List Event) (x : Except Halt α) :
    (Run.mk es x).replies = es.filterMap Event.reply? := rfl

/-- Every event of the run passes the test `p`. -/
def All (p : Event → Bool) (r : Run α) : Prop := ∀ e ∈ r.events, p e

theorem All.emit {p : Event → Bool} {r : Run α} {es : List Event} (hes : ∀ e ∈ es, p e)
    (h : r.All p) : (r.emit es).All p := by
  intro e he
  rcases List.mem_append.1 he with he | he
  · exact hes e he
  · exact h e he

theorem All.mono {p q : Event → Bool} {r : Run α} (h : r.All p) (hpq : ∀ e, p e → q e) :
    r.All q :=
  fun e he => hpq e (h e he)

theorem All.bind {p : Event → Bool} {r : Run α} {f : α → Run β} (h : r.All p)
    (hf : ∀ a, (f a).All p) : (r.bind f).All p := by
  unfold Run.bind
  split
  · exact (hf _).emit h
  · exact h

/-- The test holds on both branches of an `if`. -/
theorem All.ite {p : Event → Bool} {c : Prop} [Decidable c] {r₁ r₂ : Run α} (h₁ : r₁.All p)
    (h₂ : r₂.All p) : (if c then r₁ else r₂).All p := by
  split
  exacts [h₁, h₂]

theorem bind_of_ok {r : Run α} {a : α} (h : r.result = .ok a) (f : α → Run β) :
    r.bind f = (f a).emit r.events := by
  simp [bind, h]

end Run

/-- `fastboot_fail(reason)`. -/
def fastbootFail (reason : String) : Run Unit := ⟨[.reply (.fail reason)], .ok ()⟩

/-- `fastboot_okay(msg)`. -/
def fastbootOkay (msg : String) : Run Unit := ⟨[.reply (.okay msg)], .ok ()⟩

@[simp] theorem fastbootFail_replies (s : String) : (fastbootFail s).replies = [.fail s] := rfl

@[simp] theorem fastbootOkay_replies (s : String) : (fastbootOkay s).replies = [.okay s] := rfl

/-- The run replies exactly once and returns to its caller. -/
def Run.Answered (r : Run Unit) : Prop := ∃ x, r.replies = [x] ∧ r.result = .ok ()

theorem Run.Answered.emit {r : Run Unit} (h : r.Answered) {es : List Event}
    (hes : es.filterMap Event.reply? = []) : (r.emit es).Answered := by
  obtain ⟨x, hx, hr⟩ := h
  exact ⟨x, by simp [hes, hx], hr⟩

theorem Run.Answered.length {r : Run Unit} (h : r.Answered) : r.replies.length = 1 := by
  obtain ⟨x, hx, -⟩ := h
  rw [hx]; rfl

theorem fastbootFail_answered (s : String) : (fastbootFail s).Answered := ⟨_, rfl, rfl⟩

theorem fastbootOkay_answered (s : String) : (fastbootOkay s).Answered := ⟨_, rfl, rfl⟩

@[simp] theorem fastbootFail_result (s : String) : (fastbootFail s).result = .ok () := rfl

@[simp] theorem fastbootOkay_result (s : String) : (fastbootOkay s).result = .ok () := rfl

end Droidboot
