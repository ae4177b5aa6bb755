/-
  Droidboot formalization — `cmd_flash` (`aboot.c`, lines 116–305), the
  image writer of the spec (§4.2).

  `cmdFlash` resolves the target (the disk, an OSIP entry, or a named
  partition), and `flashDevice` writes the payload through a `dd` pipeline
  (`gzip -c -d | dd` when `gzipHeader` accepts the payload), re-reads the
  partition table after a write to the whole disk (`flashReread`), and for a
  Linux partition whose superblock carries the ext magic (`doExtChecks`) runs
  `resize2fs`, `e2fsck` and `tune2fs` (`extChecks`, one `runTool` each).

  * `cmdFlash_answered`: every run replies exactly once and returns;
  * `cmdFlash_okay_ignores_pclose`: a success reply means the pipeline took
    all `sz` bytes, the disk node could be reopened after a write to the
    disk, and the ext steps passed where they were due; but the replies do
    not depend on the status `pclose` reports, so a pipeline that took every
    byte and then failed still ends in a success reply;
  * `gzipHeader_flg_overread`: the gzip test reads byte 3 (`FLG`), not byte
    2 (`CM`);
  * `cmdFlash_pipe`: every run opens at most one pipeline, onto the node the
    name resolves to once `is_valid_blkdev` accepted it, and closes it
    exactly once.
-/
import Droidboot.World

namespace Droidboot

variable (w : World)

/-! ## The write pipeline -/

/-- The gzip test of lines 172–173 on the download buffer `data`, whose first
    `sz` bytes are the payload. -/
def gzipHeader (data : Nat → UInt8) (sz : Nat) : Bool :=
  sz > 2 && data 0 == 0x1f && data 1 == 0x8b && data 3 == 8

/-- `cmd_base` formatted with the device (lines 172–180). -/
def flashCommand (data : Nat → UInt8) (sz : Nat) (device : List Char) : List Char :=
  if gzipHeader data sz then
    "/system/bin/gzip -c -d | /system/bin/dd of=".toList ++ device ++ " bs=8192".toList
  else "/system/bin/dd of=".toList ++ device ++ " bs=8192".toList

/-- One maintenance step of lines 249–295: format the command (a failure is
    `memory allocation error`), run it, and go on with `k` when `ok` accepts
    its exit code, or fail with `msg`. -/
def runTool (cmd : List Char) (ok : Int → Bool) (msg : String) (k : Run Unit) : Run Unit :=
  if !w.alloc cmd then fastbootFail "memory allocation error"
  else
    let ret := w.executeCommand cmd
    if ok ret then k.emit [.executeCommand cmd ret]
    else (fastbootFail msg).emit [.executeCommand cmd ret]

/-- The commands of lines 251, 266 and 283. -/
def resize2fsCommand (device : List Char) : List Char := "/system/bin/resize2fs -F ".toList ++ device

def e2fsckCommand (device : List Char) : List Char := "/system/bin/e2fsck -C 0 -fy ".toList ++ device

def tune2fsCommand (device : List Char) : List Char := "/system/bin/tune2fs -C 1 ".toList ++ device

/-- `resize2fs`, `e2fsck` (exit code 1 is success) and `tune2fs` on the device. -/
def extChecks (device : List Char) : Run Unit :=
  runTool w (resize2fsCommand device) (· == 0) "could not resize filesystem to fill disk" <|
  runTool w (e2fsckCommand device) (fun ret => !(ret < 0 || ret > 1)) "fsck of filesystem failed" <|
  runTool w (tune2fsCommand device) (· == 0) "tune2fs failed" <|
  fastbootOkay ""

/-- Lines 228–247: whether the superblock at `EXT_SUPERBLOCK_OFFSET` carries
    `EXT3_SUPER_MAGIC`, or the failure met reading it. -/
def readExtMagic (device : List Char) : Except String Bool :=
  if !w.superblockOpen device then .error "could not open device node"
  else if w.superblockLseek device ≠ EXT_SUPERBLOCK_OFFSET then
    .error "could not seek to superblock offset"
  else if w.superblockRead device ≠ SUPERBLOCK_SIZE then .error "couldn't read superblock"
  else .ok (EXT3_SUPER_MAGIC == w.superblockMagic device)

/-- `do_ext_checks` (lines 225–248): only a Linux partition's superblock is read. -/
def doExtChecks (device : List Char) : Option PartInfo → Except String Bool
  | some ptn => if ptn.type = .PC_PART_TYPE_LINUX then readExtMagic w device else .ok false
  | none => .ok false

/-- Lines 222–297. -/
def flashFinish (device : List Char) (ptn : Option PartInfo) : Run Unit :=
  match doExtChecks w device ptn with
  | .error msg => fastbootFail msg
  | .ok true => extChecks w device
  | .ok false => fastbootOkay ""

/-- Lines 208–220: after a write to the whole-disk node, reopen it and ask
    the kernel to re-read the partition table. -/
def flashReread (device : List Char) (ptn : Option PartInfo) : Run Unit :=
  if device = w.diskDevice then
    if !w.openRw device then fastbootFail "could not open device node"
    else (flashFinish w device ptn).emit [.blkrrpart device]
  else flashFinish w device ptn

/-- Lines 164–305, for a target resolved to `device` (and to `ptn` for a
    named partition). -/
def flashDevice (device : List Char) (ptn : Option PartInfo) (data : Nat → UInt8) (sz : Nat) :
    Run Unit :=
  let cmd := flashCommand data sz device
  if !w.isValidBlkdev device then fastbootFail "invalid destination node. partition disks?"
  else if !w.alloc cmd then fastbootFail "memory allocation error"
  else if !w.popen cmd then fastbootFail "popen failure"
  else if sz ≠ w.fwrite cmd sz then
    ⟨[.popen cmd, .fwrite sz (w.fwrite cmd sz), .reply (.fail "image write failure"),
      .pclose (w.pclose cmd)], .ok ()⟩
  else (flashReread w device ptn).emit
    [.popen cmd, .fwrite sz (w.fwrite cmd sz), .pclose (w.pclose cmd), .sync]

/-- `cmd_flash(part_name, data, sz)`. -/
def cmdFlash (partName : List Char) (data : Nat → UInt8) (sz : Nat) : Run Unit :=
  if partName = "disk".toList then flashDevice w w.diskDevice none data sz
  else if "osip".toList.isPrefixOf partName then
    let entryIndex := atoi (partName.drop 4)
    (if w.writeStitchImage entryIndex ≠ 0 then fastbootFail "write_stitch_image failure"
      else fastbootOkay "").emit [.writeStitchImage entryIndex (w.writeStitchImage entryIndex)]
  else match w.findPartDevice partName with
    | none => fastbootFail "unknown partition specified"
    | some device => flashDevice w device (w.findPart partName) data sz

/-! ## Every run replies once -/

theorem runTool_answered {cmd : List Char} {ok : Int → Bool} {msg : String} {k : Run Unit}
    (hk : k.Answered) : (runTool w cmd ok msg k).Answered := by
  unfold runTool
  dsimp only
  split_ifs
  · exact fastbootFail_answered _
  · exact hk.emit (by rfl)
  · exact (fastbootFail_answered _).emit (by rfl)

theorem extChecks_answered (device : List Char) : (extChecks w device).Answered :=
  runTool_answered w <| runTool_answered w <| runTool_answered w <| fastbootOkay_answered _

theorem flashFinish_answered (device : List Char) (ptn : Option PartInfo) :
    (flashFinish w device ptn).Answered := by
  unfold flashFinish
  split
  · exact fastbootFail_answered _
  · exact extChecks_answered w device
  · exact fastbootOkay_answered _

theorem flashReread_answered (device : List Char) (ptn : Option PartInfo) :
    (flashReread w device ptn).Answered := by
  unfold flashReread
  split_ifs
  · exact fastbootFail_answered _
  · exact (flashFinish_answered w device ptn).emit (by rfl)
  · exact flashFinish_answered w device ptn

theorem flashDevice_answered (device : List Char) (ptn : Option PartInfo) (data : Nat → UInt8)
    (sz : Nat) : (flashDevice w device ptn data sz).Answered := by
  unfold flashDevice
  dsimp only
  split_ifs
  · exact fastbootFail_answered _
  · exact fastbootFail_answered _
  · exact fastbootFail_answered _
  · exact ⟨_, rfl, rfl⟩
  · exact (flashReread_answered w device ptn).emit (by rfl)

/-- **`cmd_flash` replies exactly once and returns.** -/
theorem cmdFlash_answered (partName : List Char) (data : Nat → UInt8) (sz : Nat) :
    (cmdFlash w partName data sz).Answered := by
  unfold cmdFlash
  dsimp only
  split_ifs
  · exact flashDevice_answered w _ _ data sz
  · exact (fastbootFail_answered _).emit (by rfl)
  · exact (fastbootOkay_answered _).emit (by rfl)
  · split
    · exact fastbootFail_answered _
    · exact flashDevice_answered w _ _ data sz

/-! ## What a success reply means -/

/-- The ext steps passed on the device: `resize2fs` and `tune2fs` exited `0`,
    `e2fsck` `0` or `1`. -/
def ExtPassed (device : List Char) : Prop :=
  w.executeCommand (resize2fsCommand device) = 0 ∧
  0 ≤ w.executeCommand (e2fsckCommand device) ∧ w.executeCommand (e2fsckCommand device) ≤ 1 ∧
  w.executeCommand (tune2fsCommand device) = 0

theorem runTool_okay {cmd : List Char} {ok : Int → Bool} {msg : String} {k : Run Unit}
    (h : (runTool w cmd ok msg k).replies = [.okay ""]) :
    ok (w.executeCommand cmd) ∧ k.replies = [.okay ""] := by
  unfold runTool at h
  dsimp only at h
  split_ifs at h with h₁ h₂
  · simp at h
  · exact ⟨h₂, by simpa [Event.reply?] using h⟩
  · simp [Event.reply?] at h

theorem extChecks_okay {device : List Char} (h : (extChecks w device).replies = [.okay ""]) :
    ExtPassed w device := by
  obtain ⟨h₁, h⟩ := runTool_okay w h
  obtain ⟨h₂, h⟩ := runTool_okay w h
  obtain ⟨h₃, -⟩ := runTool_okay w h
  simp only [beq_iff_eq, Bool.not_eq_true', Bool.or_eq_false_iff, decide_eq_false_iff_not,
    not_lt] at h₁ h₂ h₃
  exact ⟨h₁, h₂.1, h₂.2, h₃⟩

theorem flashFinish_okay {device : List Char} {ptn : Option PartInfo}
    (h : (flashFinish w device ptn).replies = [.okay ""]) :
    ∃ b, doExtChecks w device ptn = .ok b ∧ (b = true → ExtPassed w device) := by
  unfold flashFinish at h
  split at h
  · simp at h
  · exact ⟨true, ‹_›, fun _ => extChecks_okay w h⟩
  · exact ⟨false, ‹_›, nofun⟩

theorem flashReread_okay {device : List Char} {ptn : Option PartInfo}
    (h : (flashReread w device ptn).replies = [.okay ""]) :
    (device = w.diskDevice → w.openRw device) ∧ (flashFinish w device ptn).replies = [.okay ""] := by
  unfold flashReread at h
  split_ifs at h with h₁ h₂
  · simp at h
  · simp only [Bool.not_eq_true', Bool.not_eq_false] at h₂
    exact ⟨fun _ => h₂, by simpa [Event.reply?] using h⟩
  · exact ⟨fun h' => absurd h' h₁, h⟩

theorem flashDevice_okay {device : List Char} {ptn : Option PartInfo} {data : Nat → UInt8}
    {sz : Nat} (h : (flashDevice w device ptn data sz).replies = [.okay ""]) :
    w.fwrite (flashCommand data sz device) sz = sz ∧ (device = w.diskDevice → w.openRw device) ∧
      ∃ b, doExtChecks w device ptn = .ok b ∧ (b = true → ExtPassed w device) := by
  unfold flashDevice at h
  dsimp only at h
  split_ifs at h with h₁ h₂ h₃ h₄
  all_goals try simp [Event.reply?] at h
  have h := flashReread_okay w (by simpa [Event.reply?] using h)
  exact ⟨(not_not.1 h₄).symm, h.1, flashFinish_okay w h.2⟩

/-- `part_name` resolves to a device: the whole disk, or the node of a named
    partition (`ptn` is what `find_part` returns for it). -/
def FlashTarget (partName device : List Char) (ptn : Option PartInfo) : Prop :=
  (partName = "disk".toList ∧ device = w.diskDevice ∧ ptn = none) ∨
  (partName ≠ "disk".toList ∧ "osip".toList.isPrefixOf partName = false ∧
    w.findPartDevice partName = some device ∧ ptn = w.findPart partName)

theorem cmdFlash_of_target {partName device : List Char} {ptn : Option PartInfo}
    (ht : FlashTarget w partName device ptn) (data : Nat → UInt8) (sz : Nat) :
    cmdFlash w partName data sz = flashDevice w device ptn data sz := by
  rcases ht with ⟨rfl, rfl, rfl⟩ | ⟨h₁, h₂, h₃, rfl⟩
  · simp [cmdFlash]
  · simp only [cmdFlash, h₁, h₂, h₃, if_false, Bool.false_eq_true]

/-- For a target resolved to a device, a success reply means that the write
    pipeline took all `sz` bytes, that the whole-disk node could be reopened
    after a write to it, and that the ext steps passed whenever they were due. -/
theorem cmdFlash_okay {partName device : List Char} {ptn : Option PartInfo} {data : Nat → UInt8}
    {sz : Nat} (ht : FlashTarget w partName device ptn)
    (h : (cmdFlash w partName data sz).replies = [.okay ""]) :
    w.fwrite (flashCommand data sz device) sz = sz ∧ (device = w.diskDevice → w.openRw device) ∧
      ∃ b, doExtChecks w device ptn = .ok b ∧ (b = true → ExtPassed w device) :=
  flashDevice_okay w (cmdFlash_of_target w ht data sz ▸ h)

/-! ## The pipeline's exit status -/

theorem flashDevice_replies_pclose (status : List Char → Int) (device : List Char)
    (ptn : Option PartInfo) (data : Nat → UInt8) (sz : Nat) :
    (flashDevice { w with pclose := status } device ptn data sz).replies =
      (flashDevice w device ptn data sz).replies := by
  unfold flashDevice
  dsimp only
  split_ifs <;> rfl

theorem cmdFlash_replies_pclose (status : List Char → Int) (partName : List Char)
    (data : Nat → UInt8) (sz : Nat) :
    (cmdFlash { w with pclose := status } partName data sz).replies =
      (cmdFlash w partName data sz).replies := by
  unfold cmdFlash
  dsimp only
  split_ifs
  · exact flashDevice_replies_pclose w status _ _ data sz
  · rfl
  · rfl
  · split <;> first | rfl | exact flashDevice_replies_pclose w status _ _ data sz

/-- A pipeline that took every byte, on a node that is not the whole disk and
    holds no ext file system, ends in a success reply. -/
theorem flashDevice_of_written {device : List Char} {ptn : Option PartInfo} {data : Nat → UInt8}
    {sz : Nat} (hv : w.isValidBlkdev device = true) (ha : w.alloc (flashCommand data sz device) = true)
    (hp : w.popen (flashCommand data sz device) = true)
    (hw : w.fwrite (flashCommand data sz device) sz = sz) (hd : device ≠ w.diskDevice)
    (hx : doExtChecks w device ptn = .ok false) :
    flashDevice w device ptn data sz = (fastbootOkay "").emit [.popen (flashCommand data sz device),
      .fwrite sz sz, .pclose (w.pclose (flashCommand data sz device)), .sync] := by
  simp [flashDevice, flashReread, flashFinish, hv, ha, hp, hw, hd, hx]

/-- **`cmd_flash` ignores the pipeline's exit status.** For a target resolved
    to a device, a success reply means that the write pipeline took all `sz`
    bytes, that the whole-disk node could be reopened after a write to it,
    and that the ext steps passed whenever they were due.  But the replies
    are the same whatever status `pclose` reports: a pipeline that took every
    byte, for a partition that is neither the whole disk nor ext-formatted,
    ends in a success reply whatever its exit status. -/
theorem cmdFlash_okay_ignores_pclose {partName device : List Char} {ptn : Option PartInfo}
    {data : Nat → UInt8} {sz : Nat} (ht : FlashTarget w partName device ptn) :
    ((cmdFlash w partName data sz).replies = [.okay ""] →
      w.fwrite (flashCommand data sz device) sz = sz ∧ (device = w.diskDevice → w.openRw device) ∧
        ∃ b, doExtChecks w device ptn = .ok b ∧ (b = true → ExtPassed w device)) ∧
    (∀ status : List Char → Int, (cmdFlash { w with pclose := status } partName data sz).replies =
      (cmdFlash w partName data sz).replies) ∧
    (w.isValidBlkdev device = true → w.alloc (flashCommand data sz device) = true →
      w.popen (flashCommand data sz device) = true →
      w.fwrite (flashCommand data sz device) sz = sz → device ≠ w.diskDevice →
      doExtChecks w device ptn = .ok false →
      (cmdFlash w partName data sz).replies = [.okay ""] ∧
        .pclose (w.pclose (flashCommand data sz device)) ∈ (cmdFlash w partName data sz).events) := by
  refine ⟨cmdFlash_okay w ht, fun status => cmdFlash_replies_pclose w status partName data sz,
    fun hv ha hp hw hd hx => ?_⟩
  rw [cmdFlash_of_target w ht, flashDevice_of_written w hv ha hp hw hd hx]
  simp [Event.reply?]

/-- A system whose `system` partition is a raw partition (not Linux) on
    `/dev/system`, where `dd` fails after the pipe took every byte: `pclose`
    reports exit status `1`, that is `256`. -/
def ddFails : World where
  DEVICE_NAME := "mfld".toList
  CACHE_PTN := "cache".toList
  DATA_PTN := "data".toList
  diskDevice := "/dev/sda".toList
  findPart name := some ⟨name, .other 0⟩
  findPartDevice name := some ("/dev/".toList ++ name)
  isValidBlkdev _ := true
  alloc _ := true
  popen _ := true
  fwrite _ sz := sz
  pclose _ := 256
  openRw _ := true
  superblockOpen _ := true
  superblockLseek _ := 1024
  superblockRead _ := 1024
  superblockMagic _ := 0
  executeCommand _ := 0
  writeStitchImage _ := 0
  applyDiskConfig := 0
  reboot := true
  mountPartition _ := 0
  kexecLinux _ := true
  mountPartitionDevice _ _ _ := 0
  stat _ := true
  umount _ := 0
  updateKeyIn _ := false
  bootKeyIn _ := false
  platformProvisionFunction := none
  ext4FilesystemChecks _ _ := 0
  erasePartition _ := 0

/-- `flash:system` of one byte on `ddFails`: `pclose` reports `256`, and the
    reply is `OKAY`. -/
theorem cmdFlash_okay_pclose_256 :
    ddFails.pclose (flashCommand (fun _ => 0) 1 "/dev/system".toList) = 256 ∧
      (cmdFlash ddFails "system".toList (fun _ => 0) 1).replies = [.okay ""] ∧
      .pclose (ddFails.pclose (flashCommand (fun _ => 0) 1 "/dev/system".toList)) ∈
        (cmdFlash ddFails "system".toList (fun _ => 0) 1).events :=
  ⟨rfl, (@cmdFlash_okay_ignores_pclose ddFails "system".toList "/dev/system".toList
    (some ⟨"system".toList, .other 0⟩) (fun _ => 0) 1
    (.inr ⟨by decide, by decide, by decide, rfl⟩)).2.2 rfl rfl rfl rfl (by decide) rfl⟩

/-! ## Target resolution and the gzip test -/

/-- The header of a gzip stream with no stored name (`FLG = 0`), as `gzip`
    writes when it compresses its standard input. -/
def gzipNoName : Nat → UInt8 := fun i => [0x1f, 0x8b, 8, 0].getD i 0

/-- A gzip stream with `FLG = 0` is written raw; and for a 3-byte payload the
    choice depends on the buffer byte after the payload. -/
theorem gzipHeader_flg_overread :
    gzipHeader gzipNoName 4 = false ∧
      gzipHeader (fun i => if i < 3 then gzipNoName i else 8) 3 ≠ gzipHeader gzipNoName 3 := by
  decide

/-- A name that is neither `disk` nor `osip...` nor known to `find_part_device`
    is failed with no I/O. -/
theorem cmdFlash_unknown {partName : List Char} (h₁ : partName ≠ "disk".toList)
    (h₂ : "osip".toList.isPrefixOf partName = false) (h₃ : w.findPartDevice partName = none)
    (data : Nat → UInt8) (sz : Nat) :
    cmdFlash w partName data sz = fastbootFail "unknown partition specified" := by
  simp only [cmdFlash, h₁, h₂, h₃, if_false, Bool.false_eq_true]

/-- Every name that starts with `osip` is an OSIP entry, whatever follows:
    `write_stitch_image` is called with `atoi` of the rest of the name. -/
theorem cmdFlash_osip (rest : List Char) (data : Nat → UInt8) (sz : Nat) :
    (cmdFlash w ("osip".toList ++ rest) data sz).events.head? =
      some (.writeStitchImage (atoi rest) (w.writeStitchImage (atoi rest))) := by
  have h₁ : "osip".toList ++ rest ≠ "disk".toList := by simp
  have h₂ : "osip".toList.isPrefixOf ("osip".toList ++ rest) = true := by simp
  have h₃ : ("osip".toList ++ rest).drop 4 = rest := List.drop_left' rfl
  simp only [cmdFlash, h₁, h₂, h₃, if_false, if_true]
  split_ifs <;> rfl

/-! ## The pipeline -/

section Steps

variable {p : Event → Bool} (hr : ∀ r, p (.reply r)) (hx : ∀ cmd st, p (.executeCommand cmd st))
include hr hx

/-- The steps after the write emit replies and runs of the ext tools, and
    `BLKRRPART` after a write to the disk. -/
theorem runTool_all {cmd : List Char} {ok : Int → Bool} {msg : String} {k : Run Unit}
    (hk : k.All p) : (runTool w cmd ok msg k).All p :=
  .ite (List.forall_mem_singleton.2 (hr _)) <|
    .ite (hk.emit (List.forall_mem_singleton.2 (hx _ _)))
      (.emit (List.forall_mem_singleton.2 (hx _ _)) (List.forall_mem_singleton.2 (hr _)))

theorem flashFinish_all (device : List Char) (ptn : Option PartInfo) : (flashFinish w device ptn).All p := by
  have hok : (fastbootOkay "").All p := List.forall_mem_singleton.2 (hr _)
  unfold flashFinish
  split
  · exact List.forall_mem_singleton.2 (hr _)
  · exact runTool_all w hr hx <| runTool_all w hr hx <| runTool_all w hr hx hok
  · exact hok

theorem flashReread_all (hb : ∀ d, p (.blkrrpart d)) (device : List Char) (ptn : Option PartInfo) :
    (flashReread w device ptn).All p :=
  .ite (.ite (List.forall_mem_singleton.2 (hr _))
      ((flashFinish_all w hr hx device ptn).emit (List.forall_mem_singleton.2 (hb _))))
    (flashFinish_all w hr hx device ptn)

end Steps

/-- `popen` and `pclose` of the pipeline. -/
def Event.isPipe : Event → Bool
  | .popen _ | .pclose _ => true
  | _ => false

theorem flashDevice_pipe (device : List Char) (ptn : Option PartInfo) (data : Nat → UInt8) (sz : Nat) :
    (flashDevice w device ptn data sz).events.filter Event.isPipe = [] ∨
      w.isValidBlkdev device = true ∧ (flashDevice w device ptn data sz).events.filter Event.isPipe =
        [.popen (flashCommand data sz device), .pclose (w.pclose (flashCommand data sz device))] := by
  have hr : (flashReread w device ptn).events.filter Event.isPipe = [] :=
    List.filter_eq_nil_iff.2 fun e he => by
      simpa using @flashReread_all w (fun e => !e.isPipe) (fun _ => rfl) (fun _ _ => rfl)
        (fun _ => rfl) device ptn e he
  unfold flashDevice
  dsimp only
  split
  · exact .inl rfl
  rename_i h₁
  split
  · exact .inl rfl
  split
  · exact .inl rfl
  split
  · exact .inr ⟨by simpa using h₁, by simp [Event.isPipe]⟩
  · exact .inr ⟨by simpa using h₁, by simp [Event.isPipe, hr]⟩

/-- **`cmd_flash` closes the pipe it opens.** In every run, whatever the
    external calls answer, `cmd_flash` opens at most one pipeline; when it
    does, the pipeline is `dd` (behind `gzip` for a gzip payload) onto the node
    the name resolves to, the whole disk for `disk`, which `is_valid_blkdev`
    accepted, and it is closed exactly once, after it is opened. -/
theorem cmdFlash_pipe (partName : List Char) (data : Nat → UInt8) (sz : Nat) :
    (cmdFlash w partName data sz).events.filter Event.isPipe = [] ∨
      ∃ device, (if partName = "disk".toList then device = w.diskDevice
          else w.findPartDevice partName = some device) ∧ w.isValidBlkdev device = true ∧
        (cmdFlash w partName data sz).events.filter Event.isPipe =
          [.popen (flashCommand data sz device), .pclose (w.pclose (flashCommand data sz device))] := by
  unfold cmdFlash
  split_ifs with h₁ h₂
  · rcases flashDevice_pipe w w.diskDevice none data sz with h | ⟨hv, h⟩
    · exact .inl h
    · exact .inr ⟨_, rfl, hv, h⟩
  · dsimp only
    left
    split_ifs <;> simp [fastbootFail, fastbootOkay, Event.isPipe]
  · split
    · exact .inl rfl
    · rename_i device hd
      rcases flashDevice_pipe w device (w.findPart partName) data sz with h | ⟨hv, h⟩
      · exact .inl h
      · exact .inr ⟨device, hd, hv, h⟩

end Droidboot
