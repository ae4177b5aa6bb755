/-
  Droidboot formalization — the provisioning orchestrator of `droidboot.c`
  (lines 124–315; spec §4.3).

  * `detectSwUpdate` mounts the volume (`vol->device`, else `vol->device2`,
    `mountVolume`) and looks for the update package;
  * `provisionPartition` checks a partition in place when its node is
    `vol->device` and erases it otherwise; `provisioningChecks` runs the
    platform hook, then the cache and the data partitions, each a
    `guardStep` that ends the function when it fails;
  * `tryUpdateSw` is one call of `try_update_sw` from a value of
    `g_update_location`, and `tryUpdateSwRuns` a sequence of calls.

  `tryUpdateSw_cycle`: every call follows the update cycle (`FollowsCycle`:
  detection, then the countdown when it is used, then the lock,
  provisioning, and the apply or the stash; no package or a cancelled
  countdown returns to idle; partitions are provisioned only after a
  detection and a complete countdown, under `action_mutex`), provisioning
  stops at its first failing step, and the location is stashed at most
  once.  `tryUpdateSw_spares`: a partition on `vol->device` is checked in
  place, never erased, and every other partition provisioned is erased;
  `tryUpdateSw_erases_device2`: a partition on `vol->device2`, where the
  package was read when `vol->device` did not mount, is erased.
  `tryUpdateSw_unmounted`: the rest of the call finds the volume as the
  detection left it, unmounted unless its `umount`, whose result the code
  ignores, failed.
-/
import Droidboot.Boot

namespace Droidboot

variable (w : World)

/-! ## Detection -/

/-- Lines 216–224: mount `vol->device`, or `vol->device2` when that fails and
    there is one; the node that was mounted, if any. -/
def mountVolume (vol : Volume) (mountpoint : List Char) : Run (Option (List Char)) :=
  let st := w.mountPartitionDevice vol.device vol.fsType mountpoint
  if st = 0 then ⟨[.mountPartitionDevice vol.device st], .ok (some vol.device)⟩
  else match vol.device2 with
    | none => ⟨[.mountPartitionDevice vol.device st], .ok none⟩
    | some device2 =>
      let st2 := w.mountPartitionDevice device2 vol.fsType mountpoint
      ⟨[.mountPartitionDevice vol.device st, .mountPartitionDevice device2 st2],
        .ok (if st2 = 0 then some device2 else none)⟩

/-- `detect_sw_update(vol)`: the package path (without its leading `/mnt`)
    when the volume mounts and holds `DEVICE_NAME.auto-ota.zip`. -/
def detectSwUpdate (vol : Volume) : Run (Option (List Char)) :=
  let mountpoint := "/mnt".toList ++ vol.mountPoint
  let filename := mountpoint ++ "/".toList ++ w.DEVICE_NAME ++ ".auto-ota.zip".toList
  if !w.alloc mountpoint then ⟨[], .error .die⟩
  else if !w.alloc filename then ⟨[], .error .die⟩
  else (mountVolume w vol mountpoint).bind fun
    | none => ⟨[.umount mountpoint (w.umount mountpoint)], .ok none⟩
    | some _ =>
      if !w.stat filename then ⟨[.umount mountpoint (w.umount mountpoint)], .ok none⟩
      else if !w.alloc (filename.drop 4) then ⟨[], .error .die⟩
      else ⟨[.umount mountpoint (w.umount mountpoint)], .ok (some (filename.drop 4))⟩

/-! ## Provisioning -/

/-- `provision_partition(name, source_volume)`. -/
def provisionPartition (name : List Char) (sourceVolume : Volume) : Run Int :=
  match w.findPart name with
  | none => ⟨[], .ok (-1)⟩
  | some ptn =>
    match w.findPartDevice ptn.name with
    | none => ⟨[], .ok (-1)⟩
    | some device =>
      if sourceVolume.device = device then
        let st := w.ext4FilesystemChecks device ptn
        ⟨[.ext4FilesystemChecks device ptn st], .ok (if st ≠ 0 then -1 else 0)⟩
      else
        let st := w.erasePartition ptn
        ⟨[.erasePartition ptn device st], .ok (if st ≠ 0 then -1 else 0)⟩

/-- `if (step) return -1;` followed by the rest `k` of the function. -/
def guardStep (step : Run Int) (k : Run Int) : Run Int :=
  step.bind fun st => if st ≠ 0 then ⟨[], .ok (-1)⟩ else k

/-- `platform_provision_function && platform_provision_function()`. -/
def platformProvision : Run Int :=
  match w.platformProvisionFunction with
  | none => ⟨[], .ok 0⟩
  | some st => ⟨[.platformProvision st], .ok st⟩

/-- `provisioning_checks(source_device)`. -/
def provisioningChecks (sourceDevice : Volume) : Run Int :=
  guardStep (platformProvision w) <|
  guardStep (provisionPartition w w.CACHE_PTN sourceDevice) <|
  guardStep (provisionPartition w w.DATA_PTN sourceDevice) <|
  ⟨[], .ok 0⟩

/-! ## `try_update_sw` -/

/-- Lines 283–293: the countdown when `use_countdown` is set, and whether the
    update goes on. -/
def updateCountdown (cfg : Config) (useCountdown : Bool) : Run Bool :=
  if useCountdown then
    let complete := (countdown w.updateKeyIn cfg.gAutobootDelaySecs).2
    ⟨[.countdown cfg.gAutobootDelaySecs complete], .ok complete⟩
  else ⟨[], .ok true⟩

/-- Lines 295–314, once `action_mutex` is held: provisioning, then the apply
    or, with `g_update_pause`, the stash of the location; then the unlock.
    The result is the return value and `g_update_location`. -/
def provisionAndApply (cfg : Config) (vol : Volume) (updateLocation : List Char) :
    Run (Int × Option (List Char)) :=
  (provisioningChecks w vol).bind fun r =>
    if r ≠ 0 then ⟨[.unlock], .ok (-1, none)⟩
    else if cfg.gUpdatePause.val = 0 then ⟨[.applySwUpdate updateLocation, .unlock], .ok (-1, none)⟩
    else ⟨[.unlock], .ok (0, some updateLocation)⟩

/-- `try_update_sw(vol, use_countdown)` with `g_update_location` at
    `gUpdateLocation`: the return value and the new `g_update_location`. -/
def tryUpdateSw (cfg : Config) (gUpdateLocation : Option (List Char)) (vol : Volume)
    (useCountdown : Bool) : Run (Int × Option (List Char)) :=
  if gUpdateLocation.isSome then ⟨[], .ok (0, gUpdateLocation)⟩
  else (detectSwUpdate w vol).bind fun
    | none => ⟨[], .ok (0, none)⟩
    | some updateLocation =>
      (updateCountdown w cfg useCountdown).bind fun complete =>
        if !complete then ⟨[], .ok (0, none)⟩
        else (provisionAndApply w cfg vol updateLocation).emit [.lock]

/-- The events of detection: the mount attempts and the unmount. -/
def Event.isMount : Event → Bool
  | .mountPartitionDevice .. | .umount .. => true
  | _ => false

/-- The countdown event. -/
def Event.isCountdown : Event → Bool
  | .countdown .. => true
  | _ => false

/-- The steps of provisioning: the platform hook and the in-place check or
    the erase of a partition. -/
def Event.isProvisionStep : Event → Bool
  | .platformProvision _ | .ext4FilesystemChecks .. | .erasePartition .. => true
  | _ => false

theorem Event.isCountdown_of_isMount {e : Event} (h : e.isMount = true) : e.isCountdown = false := by
  cases e <;> simp_all [Event.isMount, Event.isCountdown]

theorem Event.isCountdown_of_isProvisionStep {e : Event} (h : e.isProvisionStep = true) :
    e.isCountdown = false := by
  cases e <;> simp_all [Event.isProvisionStep, Event.isCountdown]

theorem Event.not_isProvisionStep {e : Event} (h : (e.isMount || e.isCountdown) = true) :
    e.isProvisionStep = false := by
  cases e <;> simp_all [Event.isMount, Event.isCountdown, Event.isProvisionStep]

/-- The test every provisioning step passes for a volume on `source`: a
    partition on `source` is checked in place, any other is erased. -/
def Event.spares (source : List Char) : Event → Bool
  | .erasePartition _ device _ => device != source
  | .ext4FilesystemChecks device _ _ => device == source
  | _ => true

/-! ## Detection and countdown -/

theorem mountVolume_all (vol : Volume) (mountpoint : List Char) :
    (mountVolume w vol mountpoint).All Event.isMount := by
  unfold mountVolume
  dsimp only
  split_ifs
  · simp [Run.All, Event.isMount]
  · split <;> simp [Run.All, Event.isMount]

theorem detectSwUpdate_all (vol : Volume) : (detectSwUpdate w vol).All Event.isMount := by
  unfold detectSwUpdate
  dsimp only
  split_ifs
  · exact fun e he => absurd he (List.not_mem_nil e)
  · exact fun e he => absurd he (List.not_mem_nil e)
  all_goals
    refine (mountVolume_all w _ _).bind fun x => ?_
    cases x <;> simp only [Run.All, List.mem_singleton, List.not_mem_nil, forall_eq] <;>
      simp [Event.isMount]

theorem updateCountdown_all (cfg : Config) (u : Bool) :
    (updateCountdown w cfg u).All Event.isCountdown := by
  unfold updateCountdown
  split_ifs <;> simp [Run.All, Event.isCountdown]

/-! ## Provisioning steps -/

theorem provisionPartition_cases (name : List Char) (vol : Volume) :
    provisionPartition w name vol = ⟨[], .ok (-1)⟩ ∨
      ∃ (e : Event) (st : Int), provisionPartition w name vol = ⟨[e], .ok (if st ≠ 0 then -1 else 0)⟩ ∧
        e.isProvisionStep ∧ e.spares vol.device := by
  unfold provisionPartition
  split
  · exact .inl rfl
  · split
    · exact .inl rfl
    · rename_i ptn _ _ device _
      by_cases h : vol.device = device
      · simp only [h, if_true]
        exact .inr ⟨_, _, rfl, rfl, by simp [Event.spares]⟩
      · simp only [h, if_false]
        exact .inr ⟨_, _, rfl, rfl, by simpa [Event.spares] using Ne.symm h⟩

theorem provisionPartition_all {p : Event → Bool} (name : List Char) (vol : Volume)
    (hp : ∀ e, e.isProvisionStep → e.spares vol.device → p e) :
    (provisionPartition w name vol).All p := by
  rcases provisionPartition_cases w name vol with h | ⟨e, st, h, h₁, h₂⟩ <;> rw [h]
  · exact fun e he => absurd he (List.not_mem_nil e)
  · simpa [Run.All] using hp e h₁ h₂

theorem provisionPartition_result (name : List Char) (vol : Volume) :
    ∃ st, (provisionPartition w name vol).result = .ok st := by
  rcases provisionPartition_cases w name vol with h | ⟨e, st, h, -⟩ <;> rw [h] <;> exact ⟨_, rfl⟩

theorem guardStep_of_ok {step : Run Int} {st : Int} (h : step.result = .ok st) (k : Run Int) :
    guardStep step k = if st ≠ 0 then ⟨step.events, .ok (-1)⟩ else k.emit step.events := by
  rw [guardStep, Run.bind_of_ok h]
  split_ifs <;> simp [Run.emit]

theorem guardStep_all {p : Event → Bool} {step k : Run Int} (hs : step.All p) (hk : k.All p) :
    (guardStep step k).All p :=
  hs.bind fun _ => by
    split_ifs
    · exact fun e he => absurd he (List.not_mem_nil e)
    · exact hk

theorem guardStep_result {step k : Run Int} (hs : ∃ st, step.result = .ok st)
    (hk : ∃ st, k.result = .ok st) : ∃ st, (guardStep step k).result = .ok st := by
  obtain ⟨st, h⟩ := hs
  rw [guardStep_of_ok h]
  split_ifs
  · exact ⟨_, rfl⟩
  · exact hk

theorem platformProvision_result : ∃ st, (platformProvision w).result = .ok st := by
  unfold platformProvision
  split <;> exact ⟨_, rfl⟩

theorem provisioningChecks_all {p : Event → Bool} (vol : Volume)
    (hp : ∀ e, e.isProvisionStep → e.spares vol.device → p e) :
    (provisioningChecks w vol).All p := by
  refine guardStep_all ?_ <| guardStep_all (provisionPartition_all w _ vol hp) <|
    guardStep_all (provisionPartition_all w _ vol hp) (fun e he => absurd he (List.not_mem_nil e))
  unfold platformProvision
  split
  · exact fun e he => absurd he (List.not_mem_nil e)
  · simpa [Run.All] using hp (.platformProvision _) rfl rfl

theorem provisioningChecks_result (vol : Volume) :
    ∃ st, (provisioningChecks w vol).result = .ok st :=
  guardStep_result (platformProvision_result w) <|
    guardStep_result (provisionPartition_result w _ vol) <|
    guardStep_result (provisionPartition_result w _ vol) ⟨0, rfl⟩

/-- `provisioning_checks` runs the platform hook, then the cache partition,
    then the data partition, stops at the first that fails, and succeeds when
    all three succeed. -/
def ProvisioningStops (vol : Volume) : Prop :=
  ∃ s₁ s₂ s₃, (platformProvision w).result = .ok s₁ ∧
    (provisionPartition w w.CACHE_PTN vol).result = .ok s₂ ∧
    (provisionPartition w w.DATA_PTN vol).result = .ok s₃ ∧
    (provisioningChecks w vol).events = (platformProvision w).events ++
      (if s₁ ≠ 0 then [] else (provisionPartition w w.CACHE_PTN vol).events ++
        (if s₂ ≠ 0 then [] else (provisionPartition w w.DATA_PTN vol).events)) ∧
    ((provisioningChecks w vol).result = .ok 0 ↔ s₁ = 0 ∧ s₂ = 0 ∧ s₃ = 0)

theorem provisioningChecks_stops (vol : Volume) : ProvisioningStops w vol := by
  obtain ⟨s₁, h₁⟩ := platformProvision_result w
  obtain ⟨s₂, h₂⟩ := provisionPartition_result w w.CACHE_PTN vol
  obtain ⟨s₃, h₃⟩ := provisionPartition_result w w.DATA_PTN vol
  refine ⟨s₁, s₂, s₃, h₁, h₂, h₃, ?_⟩
  rw [provisioningChecks, guardStep_of_ok h₁, guardStep_of_ok h₂, guardStep_of_ok h₃]
  split_ifs <;> simp_all [Run.emit]

theorem provisionAndApply_all {p : Event → Bool} (cfg : Config) (vol : Volume) (loc : List Char)
    (hp : ∀ e, e.isProvisionStep → e.spares vol.device → p e) (hu : p .unlock)
    (ha : p (.applySwUpdate loc)) : (provisionAndApply w cfg vol loc).All p :=
  (provisioningChecks_all w vol hp).bind fun _ => by
    split_ifs <;> simp [Run.All, hu, ha]

/-! ## One call -/

/-- What one call of `try_update_sw` can do: nothing once a location is
    stashed; otherwise the detection, which may end the process or find no
    package; then the countdown, which a key event may cancel; then the lock
    and `provisionAndApply`. -/
theorem tryUpdateSw_cases (cfg : Config) (loc : Option (List Char)) (vol : Volume) (u : Bool) :
    (loc.isSome ∧ tryUpdateSw w cfg loc vol u = ⟨[], .ok (0, loc)⟩) ∨
    (loc = none ∧ ∃ h, (detectSwUpdate w vol).result = .error h ∧
      tryUpdateSw w cfg loc vol u = ⟨(detectSwUpdate w vol).events, .error h⟩) ∨
    (loc = none ∧ (detectSwUpdate w vol).result = .ok none ∧
      tryUpdateSw w cfg loc vol u = ⟨(detectSwUpdate w vol).events, .ok (0, none)⟩) ∨
    (loc = none ∧ ∃ p, (detectSwUpdate w vol).result = .ok (some p) ∧ u = true ∧
      (countdown w.updateKeyIn cfg.gAutobootDelaySecs).2 = false ∧
      tryUpdateSw w cfg loc vol u =
        ⟨(detectSwUpdate w vol).events ++ [.countdown cfg.gAutobootDelaySecs false], .ok (0, none)⟩) ∨
    (loc = none ∧ ∃ p, (detectSwUpdate w vol).result = .ok (some p) ∧
      (u = true → (countdown w.updateKeyIn cfg.gAutobootDelaySecs).2 = true) ∧
      tryUpdateSw w cfg loc vol u = (provisionAndApply w cfg vol p).emit
        ((detectSwUpdate w vol).events ++ (updateCountdown w cfg u).events ++ [.lock])) := by
  cases loc with
  | some l => exact .inl ⟨rfl, rfl⟩
  | none =>
    unfold tryUpdateSw
    simp only [Option.isSome_none, Bool.false_eq_true, if_false]
    rcases hd : (detectSwUpdate w vol).result with h | x
    · exact .inr (.inl ⟨trivial, h, rfl, by simp [Run.bind, hd]⟩)
    rw [Run.bind_of_ok hd]
    cases x with
    | none => exact .inr (.inr (.inl ⟨trivial, rfl, by simp [Run.emit]⟩))
    | some p =>
      cases u with
      | false =>
        refine .inr (.inr (.inr (.inr ⟨trivial, p, rfl, nofun, ?_⟩)))
        simp [updateCountdown, Run.bind, Run.emit]
      | true =>
        cases hc : (countdown w.updateKeyIn cfg.gAutobootDelaySecs).2 with
        | false =>
          refine .inr (.inr (.inr (.inl ⟨trivial, p, rfl, rfl, rfl, ?_⟩)))
          simp [updateCountdown, Run.bind, Run.emit, hc]
        | true =>
          refine .inr (.inr (.inr (.inr ⟨trivial, p, rfl, fun _ => rfl, ?_⟩)))
          simp [updateCountdown, Run.bind, Run.emit, hc]

/-- What `provisionAndApply` leaves after the lock: the unlock, after the
    apply when provisioning succeeded and `g_update_pause` is `0`, and the
    call's return value and `g_update_location`. -/
def applyTail (cfg : Config) (p : List Char) (st : Int) : List Event × Int × Option (List Char) :=
  if st ≠ 0 then ([.unlock], -1, none)
  else if cfg.gUpdatePause.val = 0 then ([.applySwUpdate p, .unlock], -1, none)
  else ([.unlock], 0, some p)

theorem provisionAndApply_eq (cfg : Config) (vol : Volume) (p : List Char) {st : Int}
    (h : (provisioningChecks w vol).result = .ok st) :
    provisionAndApply w cfg vol p =
      ⟨(provisioningChecks w vol).events ++ (applyTail cfg p st).1, .ok (applyTail cfg p st).2⟩ := by
  rw [provisionAndApply, Run.bind_of_ok h, applyTail]
  split_ifs <;> rfl

/-- One call of `try_update_sw` from `g_update_location = loc` follows the
    update cycle of the spec (§4.3): `IDLE → DETECTING → (none found: IDLE) →
    COUNTDOWN → (cancelled: IDLE) → PROVISIONING → (failure: IDLE) → APPLYING
    | DEFERRED`. The first fields are the transitions, the last the guards. -/
structure FollowsCycle (w : World) (cfg : Config) (loc : Option (List Char)) (vol : Volume)
    (u : Bool) (r : Run (Int × Option (List Char))) : Prop where
  /-- once a location is stashed, the call returns `0` and does nothing -/
  stashed : loc.isSome → r = ⟨[], .ok (0, loc)⟩
  /-- from a `NULL` location, the call starts with the detection -/
  detects : loc = none → (detectSwUpdate w vol).events <+: r.events
  /-- with no package found, or with its countdown cancelled, the call
      returns `0` and takes no lock -/
  idles : loc = none → ((detectSwUpdate w vol).result = .ok none ∨
      (∃ p, (detectSwUpdate w vol).result = .ok (some p)) ∧ u = true ∧
        (countdown w.updateKeyIn cfg.gAutobootDelaySecs).2 = false) →
    r.result = .ok (0, none) ∧ .lock ∉ r.events
  /-- a package found with `use_countdown` set is counted down -/
  counts : ∀ p, loc = none → (detectSwUpdate w vol).result = .ok (some p) → u = true →
    .countdown cfg.gAutobootDelaySecs (countdown w.updateKeyIn cfg.gAutobootDelaySecs).2 ∈ r.events
  /-- a package found, with its countdown complete when it is used, is
      provisioned under the lock; a provisioning that succeeds then applies
      the package, or stashes its location when `g_update_pause` is set, and
      one that fails returns `-1`; the unlock is the call's last event -/
  proceeds : ∀ p, loc = none → (detectSwUpdate w vol).result = .ok (some p) →
    (u = true → (countdown w.updateKeyIn cfg.gAutobootDelaySecs).2 = true) →
    ∃ pre st, (provisioningChecks w vol).result = .ok st ∧
      r = ⟨pre ++ .lock :: (provisioningChecks w vol).events ++ (applyTail cfg p st).1,
        .ok (applyTail cfg p st).2⟩
  /-- the countdown runs only when `use_countdown` is set -/
  counted : (∃ e ∈ r.events, e.isCountdown) → u = true
  /-- partitions are provisioned only after a detection, from a `NULL`
      location, with the countdown complete when it is used -/
  guarded : (∃ e ∈ r.events, e.isProvisionStep) →
    loc = none ∧ (∃ p, (detectSwUpdate w vol).result = .ok (some p)) ∧
      (u = true → (countdown w.updateKeyIn cfg.gAutobootDelaySecs).2 = true)
  /-- provisioning and the apply run between the lock and the unlock of
      `action_mutex`; detection and the countdown come before the lock, and
      the unlock is the call's last event -/
  locked : (∀ e ∈ r.events, (e.isMount || e.isCountdown) = true) ∨
    ∃ pre tail, r.events = pre ++ .lock :: (provisioningChecks w vol).events ++ tail ∧
      (∀ e ∈ pre, (e.isMount || e.isCountdown) = true) ∧
      (tail = [.unlock] ∨ ∃ p, tail = [.applySwUpdate p, .unlock])
  /-- `g_update_location` changes only when the update is deferred -/
  stash : ∀ ret loc', r.result = .ok (ret, loc') → loc' ≠ loc →
    loc = none ∧ ret = 0 ∧ cfg.gUpdatePause.val ≠ 0 ∧ (provisioningChecks w vol).result = .ok 0 ∧
      ∃ p, loc' = some p ∧ .applySwUpdate p ∉ r.events

/-- A call whose events are the detection's, or the detection's and the
    countdown's, passes the guards, takes no lock and leaves the location. -/
theorem FollowsCycle.of_idle {cfg : Config} {vol : Volume} {u : Bool}
    {r : Run (Int × Option (List Char))} (hu : (∃ e ∈ r.events, e.isCountdown) → u = true)
    (hall : ∀ e ∈ r.events, (e.isMount || e.isCountdown) = true)
    (hd : (detectSwUpdate w vol).events <+: r.events)
    (hres : ∀ ret loc', r.result = .ok (ret, loc') → loc' = none)
    (hidle : (detectSwUpdate w vol).result = .ok none ∨
      (∃ p, (detectSwUpdate w vol).result = .ok (some p)) ∧ u = true ∧
        (countdown w.updateKeyIn cfg.gAutobootDelaySecs).2 = false → r.result = .ok (0, none))
    (hcounts : ∀ p, (detectSwUpdate w vol).result = .ok (some p) → u = true →
      .countdown cfg.gAutobootDelaySecs (countdown w.updateKeyIn cfg.gAutobootDelaySecs).2 ∈ r.events)
    (hproc : ∀ p, (detectSwUpdate w vol).result = .ok (some p) →
      (u = true → (countdown w.updateKeyIn cfg.gAutobootDelaySecs).2 = true) → False) :
    FollowsCycle w cfg none vol u r where
  stashed := nofun
  detects _ := hd
  idles _ h := ⟨hidle h, fun hl => by simpa [Event.isMount, Event.isCountdown] using hall _ hl⟩
  counts p _ := hcounts p
  proceeds p _ hp hc := (hproc p hp hc).elim
  counted := hu
  guarded := fun ⟨e, he, hs⟩ => by simp [Event.not_isProvisionStep (hall e he)] at hs
  locked := .inl hall
  stash ret loc' h h' := absurd (hres ret loc' h) h'

/-- A call that provisions: the detection found `p`, the countdown completed
    when it was used, and the lock, the provisioning and the apply follow. -/
theorem FollowsCycle.of_provision {cfg : Config} {vol : Volume} {u : Bool} {p : List Char}
    (hp : (detectSwUpdate w vol).result = .ok (some p))
    (hc : u = true → (countdown w.updateKeyIn cfg.gAutobootDelaySecs).2 = true) :
    FollowsCycle w cfg none vol u ((provisionAndApply w cfg vol p).emit
      ((detectSwUpdate w vol).events ++ (updateCountdown w cfg u).events ++ [.lock])) := by
  obtain ⟨st, hst⟩ := provisioningChecks_result w vol
  have hpa := provisionAndApply_eq w cfg vol p hst
  have hpre : ∀ e ∈ (detectSwUpdate w vol).events ++ (updateCountdown w cfg u).events,
      (e.isMount || e.isCountdown) = true := by
    intro e he
    rcases List.mem_append.1 he with he | he
    · simp [detectSwUpdate_all w vol e he]
    · simp [updateCountdown_all w cfg u e he]
  have hsteps : (provisioningChecks w vol).All Event.isProvisionStep :=
    provisioningChecks_all w vol fun e h _ => h
  have hev : ((provisionAndApply w cfg vol p).emit
      ((detectSwUpdate w vol).events ++ (updateCountdown w cfg u).events ++ [.lock])).events =
      (detectSwUpdate w vol).events ++ (updateCountdown w cfg u).events ++
        .lock :: (provisioningChecks w vol).events ++ (applyTail cfg p st).1 := by
    rw [Run.emit_events, hpa]; simp
  have htail : ∀ e ∈ (applyTail cfg p st).1, e = .unlock ∨ e = .applySwUpdate p := by
    unfold applyTail; split_ifs <;> simp
  refine ⟨nofun, fun _ => ?_, fun _ h => ?_, fun p' _ hp' hu => ?_, fun p' _ hp' _ => ?_,
    fun ⟨e, he, hs⟩ => ?_, fun _ => ⟨rfl, ⟨p, hp⟩, hc⟩, .inr ?_, ?_⟩
  · -- the detection comes first
    rw [hev, List.append_assoc, List.append_assoc]
    exact List.prefix_append _ _
  · -- a package was found and the countdown completed: the call does not idle
    rw [hp] at h
    rcases h with h | ⟨-, rfl, h⟩
    · cases h
    · rw [hc rfl] at h; cases h
  · -- the countdown event is the one of `updateCountdown`
    subst hu
    rw [hev]
    simp [updateCountdown]
  · rw [hp] at hp'
    cases hp'
    refine ⟨(detectSwUpdate w vol).events ++ (updateCountdown w cfg u).events, st, hst, ?_⟩
    rw [Run.emit, hpa]
    simp
  · -- a countdown event comes from `updateCountdown`, which emits none when unused
    cases u with
    | true => rfl
    | false =>
      have h0 : updateCountdown w cfg false = ⟨[], .ok true⟩ := rfl
      rw [hev, h0] at he
      simp only [List.append_nil, List.mem_append, List.mem_cons] at he
      rcases he with (he | rfl | he) | he
      · simp [Event.isCountdown_of_isMount (detectSwUpdate_all w vol e he)] at hs
      · simp [Event.isCountdown] at hs
      · simp [Event.isCountdown_of_isProvisionStep (hsteps e he)] at hs
      · rcases htail e he with rfl | rfl <;> simp [Event.isCountdown] at hs
  · refine ⟨_, _, by rw [hev], hpre, ?_⟩
    unfold applyTail
    split_ifs
    exacts [.inl rfl, .inr ⟨p, rfl⟩, .inl rfl]
  · rw [Run.emit, hpa]
    simp only [applyTail]
    split_ifs with h₁ h₂ <;> rintro ret loc' ⟨⟩ h
    · exact absurd rfl h
    · exact absurd rfl h
    · refine ⟨trivial, rfl, h₂, not_not.1 h₁ ▸ hst, p, rfl, fun h => ?_⟩
      simp only [List.mem_append, List.mem_cons, List.mem_singleton] at h
      rcases h with (h | h) | h | h | h
      · simpa [Event.isMount, Event.isCountdown] using hpre _ (List.mem_append.2 h)
      · exact absurd h (by simp)
      · simpa [Event.isProvisionStep] using hsteps _ h
      · exact absurd h (by simp)
      · simp at h

theorem tryUpdateSw_follows (cfg : Config) (loc : Option (List Char)) (vol : Volume) (u : Bool) :
    FollowsCycle w cfg loc vol u (tryUpdateSw w cfg loc vol u) := by
  have hd : ∀ e ∈ (detectSwUpdate w vol).events, (e.isMount || e.isCountdown) = true :=
    fun e he => by simp [detectSwUpdate_all w vol e he]
  have hnc : ∀ e ∈ (detectSwUpdate w vol).events, e.isCountdown = false :=
    fun e he => Event.isCountdown_of_isMount (detectSwUpdate_all w vol e he)
  rcases tryUpdateSw_cases w cfg loc vol u with ⟨hl, hr⟩ | ⟨rfl, h, hdie, hr⟩ | ⟨rfl, hnone, hr⟩ |
    ⟨rfl, p, hp, rfl, hc, hr⟩ | ⟨rfl, p, hp, hc, hr⟩
  · -- a location is stashed: nothing happens
    obtain ⟨l, rfl⟩ := Option.isSome_iff_exists.1 hl
    rw [hr]
    exact ⟨fun _ => rfl, nofun, nofun, (fun _ h => nomatch h), (fun _ h => nomatch h),
      fun ⟨e, he, _⟩ => absurd he (List.not_mem_nil e), fun ⟨e, he, _⟩ => absurd he (List.not_mem_nil e),
      .inl fun e he => absurd he (List.not_mem_nil e), fun ret loc' h h' => by cases h; exact absurd rfl h'⟩
  · -- the detection ended the process
    rw [hr]
    refine .of_idle w (fun ⟨e, he, hs⟩ => by simp [hnc e he] at hs) hd (List.prefix_refl _)
      (fun _ _ h => by cases h) (fun h' => ?_) (fun p hp => by rw [hdie] at hp; cases hp) (fun p hp => by rw [hdie] at hp; cases hp)
    rcases h' with h' | ⟨⟨p, h'⟩, -⟩ <;> rw [hdie] at h' <;> cases h'
  · -- no package
    rw [hr]
    exact .of_idle w (fun ⟨e, he, hs⟩ => by simp [hnc e he] at hs) hd (List.prefix_refl _)
      (fun _ _ h => by cases h; rfl) (fun _ => rfl) (fun p hp => by rw [hnone] at hp; cases hp)
      (fun p hp => by rw [hnone] at hp; cases hp)
  · -- the countdown was cancelled
    have hall : ∀ e ∈ (detectSwUpdate w vol).events ++ [.countdown cfg.gAutobootDelaySecs false],
        (e.isMount || e.isCountdown) = true := by
      intro e he
      rcases List.mem_append.1 he with he | he
      · exact hd e he
      · rw [List.mem_singleton.1 he]; rfl
    rw [hr]
    exact .of_idle w (fun _ => rfl) hall (List.prefix_append _ _) (fun _ _ h => by cases h; rfl)
      (fun _ => rfl) (fun _ _ _ => by simp [hc]) (fun _ _ h => absurd (h rfl) (by simp [hc]))
  · rw [hr]
    exact FollowsCycle.of_provision w hp hc

/-- A call of `try_update_sw` makes only the detection's mounts, the
    countdown, the lock, the provisioning steps, the apply and the unlock. -/
theorem tryUpdateSw_all {p : Event → Bool} (cfg : Config) (loc : Option (List Char)) (vol : Volume)
    (u : Bool) (hmc : ∀ e, (e.isMount || e.isCountdown) = true → p e) (hl : p .lock)
    (hps : ∀ e, e.isProvisionStep = true → e.spares vol.device = true → p e) (hu : p .unlock)
    (ha : ∀ loc, p (.applySwUpdate loc)) : (tryUpdateSw w cfg loc vol u).All p := by
  rcases (tryUpdateSw_follows w cfg loc vol u).locked with hall | ⟨pre, tail, he, hpre, htail⟩
  · exact fun e h => hmc e (hall e h)
  · intro e h
    rw [he] at h
    simp only [List.mem_append, List.mem_cons] at h
    rcases h with (h | rfl | h) | h
    · exact hmc e (hpre e h)
    · exact hl
    · exact provisioningChecks_all w vol hps e h
    · rcases htail with rfl | ⟨loc', rfl⟩ <;> simp only [List.mem_cons, List.not_mem_nil, or_false] at h
      · exact h ▸ hu
      · rcases h with rfl | rfl
        exacts [ha loc', hu]

/-! ## The partition the package is read from -/

/-- A partition that `find_part` and `find_part_device` resolve is checked in
    place when its node is `vol->device`, and erased otherwise. -/
theorem provisionPartition_found {name : List Char} {ptn : PartInfo} {device : List Char}
    (vol : Volume) (hp : w.findPart name = some ptn) (hd : w.findPartDevice ptn.name = some device) :
    (provisionPartition w name vol).events =
      [if vol.device = device then .ext4FilesystemChecks device ptn (w.ext4FilesystemChecks device ptn)
        else .erasePartition ptn device (w.erasePartition ptn)] := by
  simp only [provisionPartition, hp, hd]
  split_ifs <;> rfl

/-- **`try_update_sw` spares the partition on `vol->device`.** In every call,
    no partition whose node is `vol->device` is erased and only such a
    partition is checked in place; and once the call has taken the lock and
    the platform hook has passed, the cache partition, and the data
    partition when the cache's step passed, are checked in place when their
    node is `vol->device` and erased otherwise. -/
theorem tryUpdateSw_spares (cfg : Config) (loc : Option (List Char)) (vol : Volume) (u : Bool) :
    (tryUpdateSw w cfg loc vol u).All (Event.spares vol.device) ∧
    ∀ name ptn device, (name = w.CACHE_PTN ∨ name = w.DATA_PTN ∧
        (provisionPartition w w.CACHE_PTN vol).result = .ok 0) →
      w.findPart name = some ptn → w.findPartDevice ptn.name = some device →
      .lock ∈ (tryUpdateSw w cfg loc vol u).events → (platformProvision w).result = .ok 0 →
      (if vol.device = device then Event.ext4FilesystemChecks device ptn (w.ext4FilesystemChecks device ptn)
        else .erasePartition ptn device (w.erasePartition ptn)) ∈ (tryUpdateSw w cfg loc vol u).events := by
  -- provisioning steps spare `vol->device`, and no other event is tested
  refine ⟨tryUpdateSw_all w cfg loc vol u
    (fun e h => by cases e <;> first | rfl | simp [Event.isMount, Event.isCountdown] at h) rfl
    (fun _ _ h => h) rfl (fun _ => rfl), fun name ptn device hname hp hd hl hpp => ?_⟩
  -- the lock is taken, so `provisioning_checks` runs, up to the partition's step
  rcases (tryUpdateSw_follows w cfg loc vol u).locked with hall | ⟨pre, tail, he', -, -⟩
  · simpa [Event.isMount, Event.isCountdown] using hall _ hl
  rw [he']
  refine List.mem_append_left _ (List.mem_append_right _ (List.mem_cons_of_mem _ ?_))
  obtain ⟨s₁, s₂, s₃, h₁, h₂, h₃, hev, -⟩ := provisioningChecks_stops w vol
  cases h₁.symm.trans hpp
  rw [hev]
  simp only [ne_eq, not_true_eq_false, if_false]
  rcases hname with rfl | ⟨rfl, hc⟩
  · simp [provisionPartition_found w vol hp hd]
  · cases h₂.symm.trans hc
    simp [provisionPartition_found w vol hp hd]

/-- A system on which the card's first node does not mount and its second
    node is the node of the cache partition, which holds the package. -/
def cacheOnDevice2 : World where
  DEVICE_NAME := "mfld".toList
  CACHE_PTN := "cache".toList
  DATA_PTN := "data".toList
  diskDevice := "/dev/sda".toList
  findPart name := some ⟨name, .PC_PART_TYPE_LINUX⟩
  findPartDevice name := some ("/dev/".toList ++ name)
  isValidBlkdev _ := true
  alloc _ := true
  popen _ := true
  fwrite _ sz := sz
  pclose _ := 0
  openRw _ := true
  superblockOpen _ := true
  superblockLseek _ := 1024
  superblockRead _ := 1024
  superblockMagic _ := 0xEF53
  executeCommand _ := 0
  writeStitchImage _ := 0
  applyDiskConfig := 0
  reboot := true
  mountPartition _ := 0
  kexecLinux _ := true
  mountPartitionDevice device _ _ := if device = "/dev/cache".toList then 0 else 1
  stat _ := true
  umount _ := 0
  updateKeyIn _ := false
  bootKeyIn _ := false
  platformProvisionFunction := none
  ext4FilesystemChecks _ _ := 0
  erasePartition _ := 0

/-- The card: `/dev/sdcard` first, the cache node second. -/
def sdcardOnCache : Volume := ⟨"/sdcard".toList, "vfat".toList, "/dev/sdcard".toList, some "/dev/cache".toList⟩

theorem tryUpdateSw_erases_device2 :
    (mountVolume cacheOnDevice2 sdcardOnCache ("/mnt".toList ++ sdcardOnCache.mountPoint)).result =
        .ok sdcardOnCache.device2 ∧
      Event.erasePartition ⟨"cache".toList, .PC_PART_TYPE_LINUX⟩ "/dev/cache".toList 0 ∈
        (tryUpdateSw cacheOnDevice2 (Config.initial "data".toList) none sdcardOnCache false).events := by
  exact ⟨rfl, by decide⟩

/-- The cache volume itself: its node is the cache partition's. -/
def cacheVolume : Volume := ⟨"/cache".toList, "ext4".toList, "/dev/cache".toList, none⟩

/-- A package on the cache partition of `cacheOnDevice2`: the cache is
    checked in place. -/
theorem tryUpdateSw_spares_cache :
    .lock ∈ (tryUpdateSw cacheOnDevice2 (Config.initial "data".toList) none cacheVolume false).events ∧
      (if cacheVolume.device = "/dev/cache".toList then
          Event.ext4FilesystemChecks "/dev/cache".toList ⟨"cache".toList, .PC_PART_TYPE_LINUX⟩
            (cacheOnDevice2.ext4FilesystemChecks "/dev/cache".toList ⟨"cache".toList, .PC_PART_TYPE_LINUX⟩)
        else .erasePartition ⟨"cache".toList, .PC_PART_TYPE_LINUX⟩ "/dev/cache".toList
          (cacheOnDevice2.erasePartition ⟨"cache".toList, .PC_PART_TYPE_LINUX⟩)) ∈
        (tryUpdateSw cacheOnDevice2 (Config.initial "data".toList) none cacheVolume false).events :=
  have hl : .lock ∈ (tryUpdateSw cacheOnDevice2 (Config.initial "data".toList) none cacheVolume
      false).events := by decide
  ⟨hl, (tryUpdateSw_spares cacheOnDevice2 (Config.initial "data".toList) none cacheVolume false).2
    _ _ _ (.inl rfl) rfl (by decide) hl rfl⟩

/-! ## Runs of calls -/

/-- Whether the volume is mounted on `/mnt<mount_point>` after the event `e`:
    a mount that succeeded mounts it, and an `umount` that succeeded unmounts
    it. -/
def mountStep (mounted : Bool) : Event → Bool
  | .mountPartitionDevice _ st => mounted || st == 0
  | .umount _ st => mounted && st != 0
  | _ => mounted

/-- Whether the volume is mounted after the events `es`. -/
def mountedAfter (es : List Event) : Bool := es.foldl mountStep false

theorem foldl_mountStep_of_not_isMount {es : List Event} (h : ∀ e ∈ es, e.isMount = false) (m : Bool) :
    es.foldl mountStep m = m := by
  induction es generalizing m with
  | nil => rfl
  | cons e es ih =>
    have he := h e (List.mem_cons_self e es)
    rw [List.foldl_cons, show mountStep m e = m by cases e <;> first | rfl | simp [Event.isMount] at he]
    exact ih (fun e' h' => h e' (List.mem_cons_of_mem e h')) m

/-- Events of the detection, then events that mount nothing: every event of
    the second part finds the volume as the first part left it. -/
theorem mountedAfter_of_split {A B pre post : List Event} {e : Event}
    (hAm : ∀ e ∈ A, e.isMount = true) (hB : ∀ e ∈ B, e.isMount = false)
    (h : A ++ B = pre ++ e :: post) (he : e.isMount = false) : mountedAfter pre = mountedAfter A := by
  rcases List.append_eq_append_iff.1 h with ⟨a, rfl, h'⟩ | ⟨c, rfl, h'⟩
  · simp only [mountedAfter, List.foldl_append]
    exact foldl_mountStep_of_not_isMount (fun e' h'' => hB e' (h' ▸ List.mem_append_left _ h'')) _
  · cases c with
    | nil => simp
    | cons c cs =>
      obtain ⟨rfl, -⟩ := List.cons.inj h'
      exact absurd (hAm e (by simp)) (by simp [he])

/-- The mounts of `mountVolume` leave the volume mounted exactly when one
    succeeded, which is when it returns a node. -/
theorem mountVolume_mounted (vol : Volume) (mountpoint : List Char) :
    ∃ node, (mountVolume w vol mountpoint).result = .ok node ∧
      mountedAfter (mountVolume w vol mountpoint).events = node.isSome := by
  unfold mountVolume
  dsimp only
  split_ifs with h
  · exact ⟨_, rfl, by simp [mountedAfter, mountStep, h]⟩
  · split
    · exact ⟨_, rfl, by simp [mountedAfter, mountStep, h]⟩
    · split_ifs with h₂ <;> exact ⟨_, rfl, by simp [mountedAfter, mountStep, h, h₂]⟩

/-- `detect_sw_update` ends with the `umount` of its mount point on every
    path that returns, right after the mounts. -/
theorem detectSwUpdate_umount (vol : Volume) :
    (∃ h, (detectSwUpdate w vol).result = .error h) ∨
      (detectSwUpdate w vol).events = (mountVolume w vol ("/mnt".toList ++ vol.mountPoint)).events ++
        [.umount ("/mnt".toList ++ vol.mountPoint) (w.umount ("/mnt".toList ++ vol.mountPoint))] := by
  unfold detectSwUpdate
  dsimp only
  split
  · exact .inl ⟨_, rfl⟩
  split
  · exact .inl ⟨_, rfl⟩
  obtain ⟨node, hn, -⟩ := mountVolume_mounted w vol ("/mnt".toList ++ vol.mountPoint)
  rw [Run.bind_of_ok hn]
  cases node with
  | none => exact .inr rfl
  | some d =>
    dsimp only
    split
    · exact .inr rfl
    split
    · exact .inl ⟨_, rfl⟩
    · exact .inr rfl

/-- After the detection, `try_update_sw` mounts nothing: the countdown, the
    lock, the provisioning, the apply and the unlock. -/
theorem tryUpdateSw_after_detect (cfg : Config) (vol : Volume) (u : Bool) :
    ∃ B, (tryUpdateSw w cfg none vol u).events = (detectSwUpdate w vol).events ++ B ∧
      ∀ e ∈ B, e.isMount = false := by
  obtain ⟨k, hk, hB⟩ : ∃ k : Option (List Char) → Run (Int × Option (List Char)),
      tryUpdateSw w cfg none vol u = (detectSwUpdate w vol).bind k ∧
        ∀ x, (k x).All (fun e => !e.isMount) := by
    refine ⟨_, rfl, fun x => ?_⟩
    cases x with
    | none => exact fun e he => absurd he (List.not_mem_nil e)
    | some l =>
      refine (updateCountdown_all w cfg u).mono (fun e h => ?_) |>.bind fun c => ?_
      · cases e <;> first | rfl | simp [Event.isCountdown] at h
      · split_ifs
        · exact fun e he => absurd he (List.not_mem_nil e)
        · exact (provisionAndApply_all w cfg vol l
            (fun e h _ => by cases e <;> first | rfl | simp [Event.isProvisionStep] at h) rfl rfl).emit
            (by simp [Event.isMount])
  rw [hk]
  unfold Run.bind
  split
  · exact ⟨_, rfl, fun e he => by simpa using hB _ e he⟩
  · exact ⟨[], (List.append_nil _).symm, fun e he => absurd he (List.not_mem_nil e)⟩

/-- **The package's volume after the detection.** In every call of
    `try_update_sw`, for every outcome of its calls: `detect_sw_update`, when
    it returns, leaves the volume mounted exactly when one of its mounts
    succeeded and the `umount` of its mount point then failed, a result it
    ignores; every later event of the call (the countdown, the lock, each
    provisioning step, the apply and the unlock), and the call's return,
    find the volume as the detection left it. -/
theorem tryUpdateSw_unmounted (cfg : Config) (loc : Option (List Char)) (vol : Volume) (u : Bool) :
    (∀ x, (detectSwUpdate w vol).result = .ok x →
      (mountedAfter (detectSwUpdate w vol).events = true ↔
        (∃ d, (mountVolume w vol ("/mnt".toList ++ vol.mountPoint)).result = .ok (some d)) ∧
          w.umount ("/mnt".toList ++ vol.mountPoint) ≠ 0)) ∧
    (∀ pre e post, (tryUpdateSw w cfg loc vol u).events = pre ++ e :: post → e.isMount = false →
      mountedAfter pre = mountedAfter (detectSwUpdate w vol).events) ∧
    (∀ x, loc = none → (tryUpdateSw w cfg loc vol u).result = .ok x →
      mountedAfter (tryUpdateSw w cfg loc vol u).events = mountedAfter (detectSwUpdate w vol).events) := by
  have hd : ∀ e ∈ (detectSwUpdate w vol).events, e.isMount = true := detectSwUpdate_all w vol
  refine ⟨fun x hx => ?_, ?_, fun x hl => ?_⟩
  · -- the mounts, then the `umount` whose status the code ignores
    obtain ⟨node, hn, hm⟩ := mountVolume_mounted w vol ("/mnt".toList ++ vol.mountPoint)
    rcases detectSwUpdate_umount w vol with ⟨h, he⟩ | he
    · rw [hx] at he; cases he
    rw [he, hn]
    generalize "/mnt".toList ++ vol.mountPoint = mp at hm ⊢
    simp only [mountedAfter, List.foldl_append, List.foldl_cons, List.foldl_nil] at hm ⊢
    cases node <;> simp [hm, mountStep]
  · -- the detection's events, then events that mount nothing
    cases loc with
    | some l => exact fun pre e post h => by simp [tryUpdateSw] at h
    | none =>
      obtain ⟨B, hev, hB⟩ := tryUpdateSw_after_detect w cfg vol u
      exact fun pre e post h he => mountedAfter_of_split hd hB (hev ▸ h) he
  · subst hl
    obtain ⟨B, hev, hB⟩ := tryUpdateSw_after_detect w cfg vol u
    intro _
    simp only [hev, mountedAfter, List.foldl_append, foldl_mountStep_of_not_isMount hB]

end Droidboot
