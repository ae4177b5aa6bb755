/-
  Droidboot formalization — `main` from its first line (`droidboot.c`, lines
  389–411 and 453–527): the kernel command line, the disk layout and the
  input thread, then the threads of `System`.

  * `setupDiskInformation` reads `disk_layout.conf` and applies it, and ends
    the process when either fails;
  * `mainPrefix` runs `main` up to `volume_for_path`, and returns the
    configuration the command line gives;
  * `BootReachable` are the states of the threads in a boot of `main`;
  * `reachable_auto`: the autoboot thread is created only when
    `g_use_autoboot` is set and no update is deferred, and stays so;
  * `autoboot_opt_in`: in every boot, from every command line, the autoboot
    thread runs only when the last `droidboot.bootloader` token has a value
    whose `atoi` is not `0`;
  * `autoboot_silent_countdown`: the autoboot thread mounts the second-stage
    partition and calls `kexec_linux` only after a countdown in none of whose
    windows a key event came;
  * `autoboot_from_cmdline`: in every boot, that countdown has the length of
    the last `droidboot.delay` token, and the last `droidboot.bootloader`
    token opted in.
-/
import Droidboot.System

namespace Droidboot

/-! ## `main` up to `volume_for_path` -/

/-- What `main` meets before `volume_for_path` besides the `World`: its
    arguments, the kernel command line, the build's `DISK_CONFIG_LOCATION`,
    and the outcome of the calls it makes. -/
structure Startup where
  /-- `argv[1]`, when `argc > 1` -/
  argv1 : Option (List Char)
  /-- the tokens of the kernel command line -/
  cmdline : List (List Char)
  DISK_CONFIG_LOCATION : List Char
  /-- whether every `strdup` of `parse_cmdline_option` succeeds -/
  strdupOk : Bool
  /-- whether `load_diskconfig` reads a layout from the file -/
  loadDiskconfig : List Char → Bool
  /-- whether `pthread_create` starts the input thread -/
  inputThread : Bool

/-- `setup_disk_information(disk_layout_location)`: `die()` when the layout
    cannot be read, then `apply_disk_config`, and `die()` when it fails. -/
def setupDiskInformation (w : World) (st : Startup) (location : List Char) : Run Unit :=
  if !st.loadDiskconfig location then ⟨[], .error .die⟩
  else ⟨[.applyDiskConfig w.applyDiskConfig], if w.applyDiskConfig ≠ 0 then .error .die else .ok ()⟩

/-- Lines 461–510 of `main`: the configuration from the kernel command line,
    the disk layout from `argv[1]` or `DISK_CONFIG_LOCATION`, and the input
    thread. -/
def mainPrefix (w : World) (st : Startup) : Run Config :=
  match importKernelCmdline st.strdupOk (Config.initial w.DATA_PTN) st.cmdline with
  | none => ⟨[], .error .die⟩
  | some cfg =>
    (setupDiskInformation w st (st.argv1.getD st.DISK_CONFIG_LOCATION)).bind fun _ =>
      if !st.inputThread then ⟨[], .error .die⟩ else ⟨[], .ok cfg⟩

/-- The states of the threads in a boot of `main`: `main` gets to
    `volume_for_path` with the configuration `cfg`, and the threads move from
    there. -/
def BootReachable (w : World) (st : Startup) (vol : Option Volume) (s : Sys) : Prop :=
  ∃ cfg, (mainPrefix w st).result = .ok cfg ∧ Reachable w cfg vol s

/-- `main` gets past its prefix only with the configuration of the command line. -/
theorem mainPrefix_ok {w : World} {st : Startup} {cfg : Config}
    (h : (mainPrefix w st).result = .ok cfg) :
    importKernelCmdline st.strdupOk (Config.initial w.DATA_PTN) st.cmdline = some cfg := by
  unfold mainPrefix at h
  split at h
  · cases h
  · rename_i cfg' hc
    unfold setupDiskInformation at h
    split_ifs at h <;> simp_all [Run.bind]

/-! ## The autoboot thread -/

section Autoboot

variable {w : World} {cfg : Config} {vol : Option Volume}

/-- **The autoboot thread needs `g_use_autoboot`.** In every interleaving,
    once the autoboot thread is created, `g_use_autoboot` is set and no update
    is deferred. -/
theorem reachable_auto {s : Sys} (h : Reachable w cfg vol s) (ha : s.auto ≠ .notStarted) :
    cfg.gUseAutoboot.val ≠ 0 ∧ s.location = none := by
  induction h with
  | initial => exact absurd rfl ha
  | move l _ hstep ih =>
    rcases step_cases hstep with ⟨-, rfl⟩ | ⟨-, hs⟩ | ⟨c, arg, data, sz, -, -, rfl⟩ |
      ⟨c, arg, data, sz, -, rfl⟩
    · -- `main` starts the thread only when `g_use_autoboot && !g_update_location`
      unfold mainStartup at ha ⊢
      dsimp only at ha ⊢
      split at ha
      · exact ih ha
      · rename_i loc _
        simp only at ha ⊢
        split_ifs at ha with hc
        · exact hc
        · exact absurd rfl ha
    · obtain ⟨hauto, hloc, -⟩ := autobootStep_frame hs
      exact ⟨(ih hauto).1, hloc.trans (ih hauto).2⟩
    · exact ih ha
    · obtain ⟨hloc, hauto, -⟩ := Sys.afterHandler_frame _ (handle w cfg c arg data sz)
      rw [hauto] at ha
      exact ⟨(ih ha).1, hloc.trans (ih ha).2⟩

/-- Past its countdown, the autoboot thread has logged it complete. -/
theorem reachable_countdown_complete {s : Sys} (h : Reachable w cfg vol s)
    (ha : s.auto = .mount ∨ s.auto = .kexec) :
    (countdown w.bootKeyIn cfg.gAutobootDelaySecs).2 = true ∧ .countdown cfg.gAutobootDelaySecs true ∈ s.log := by
  induction h with
  | initial => simp [Sys.initial] at ha
  | move l _ hstep ih =>
    rcases step_cases hstep with ⟨-, rfl⟩ | ⟨-, hs⟩ | ⟨c, arg, data, sz, -, -, rfl⟩ |
      ⟨c, arg, data, sz, -, rfl⟩
    · -- `main` creates the thread at its countdown, or ends the process
      unfold mainStartup at ha ⊢
      dsimp only at ha ⊢
      split at ha
      · exact (ih ha).imp_right fun h' => List.mem_append_left _ h'
      · split_ifs at ha <;> simp at ha
    · unfold autobootStep at hs
      split at hs
      · cases hs
        split_ifs at ha with hc
        · exact ⟨hc, List.mem_append_right _ (List.mem_singleton.2 (by rw [hc]))⟩
        · simp at ha
      · rename_i hm
        cases hs
        exact (ih (.inl hm)).imp_right fun h' => List.mem_append_left _ h'
      · cases hs
        split at ha <;> simp at ha
      · cases hs
    · exact (ih ha).imp_right fun h' => List.mem_append_left _ h'
    · obtain ⟨-, hauto, -⟩ := Sys.afterHandler_frame _ (handle w cfg c arg data sz)
      obtain ⟨tail, -, hlog⟩ := Sys.afterHandler_log _ (handle w cfg c arg data sz)
      rw [hauto] at ha
      exact (ih ha).imp_right fun h' => by rw [hlog]; exact List.mem_append_left _ (List.mem_append_left _ h')

/-- **Autoboot needs a silent countdown.** In every interleaving, the
    autoboot thread gets to the mount of the second-stage partition and to
    `kexec_linux` only when `g_use_autoboot` is set, no update is deferred,
    its countdown has run out, and no key event came in any window of that
    countdown: before any check of `autoboot_enabled` by the loop, or before
    the final read. -/
theorem autoboot_silent_countdown {s : Sys} (h : Reachable w cfg vol s)
    (ha : s.auto = .mount ∨ s.auto = .kexec) :
    cfg.gUseAutoboot.val ≠ 0 ∧ s.location = none ∧ .countdown cfg.gAutobootDelaySecs true ∈ s.log ∧
      ∀ i ≤ cfg.gAutobootDelaySecs.toUnsigned + 1, w.bootKeyIn i = false := by
  obtain ⟨hc, hlog⟩ := reachable_countdown_complete h ha
  have hstarted : s.auto ≠ .notStarted := by rcases ha with ha | ha <;> rw [ha] <;> nofun
  exact ⟨(reachable_auto h hstarted).1, (reachable_auto h hstarted).2, hlog,
    (countdown_complete w.bootKeyIn cfg.gAutobootDelaySecs).1 hc⟩

end Autoboot

/-- The autoboot thread of `droidboot.bootloader=1` past its countdown, with
    no key pressed. -/
theorem autoboot_silent_countdown_mount :
    let s : Sys := ⟨none, .mount, .listening, false, [.countdown (Config.initial "data".toList).gAutobootDelaySecs true]⟩
    Reachable cacheOnDevice2 autobootConfig none s ∧ (s.auto = .mount ∨ s.auto = .kexec) ∧
      autobootConfig.gUseAutoboot.val ≠ 0 ∧ s.location = none ∧
      .countdown autobootConfig.gAutobootDelaySecs true ∈ s.log ∧
      ∀ i ≤ autobootConfig.gAutobootDelaySecs.toUnsigned + 1, cacheOnDevice2.bootKeyIn i = false :=
  let s₁ : Sys := ⟨none, .countdown, .listening, false, []⟩
  let s₂ : Sys := ⟨none, .mount, .listening, false, [.countdown (Config.initial "data".toList).gAutobootDelaySecs true]⟩
  have h₁ : step cacheOnDevice2 autobootConfig none Sys.initial .startup = some s₁ := rfl
  have h₂ : step cacheOnDevice2 autobootConfig none s₁ .autoboot = some s₂ := rfl
  have hr : Reachable cacheOnDevice2 autobootConfig none s₂ := .move _ (.move _ .initial h₁) h₂
  ⟨hr, .inl rfl, autoboot_silent_countdown hr (.inl rfl)⟩

/-- A command line that sets `g_use_autoboot` has a last
    `droidboot.bootloader=` token, whose value has a non-zero `atoi`. -/
theorem useAutoboot_of_cmdline {ok : Bool} {DATA_PTN : List Char} {toks : List (List Char)}
    {cfg : Config} (h : importKernelCmdline ok (Config.initial DATA_PTN) toks = some cfg)
    (huse : cfg.gUseAutoboot.val ≠ 0) :
    ∃ v, lastValue [.bootloader] toks = some v ∧ (atoi v).val ≠ 0 := by
  rw [(importKernelCmdline_overrides h).useAutoboot] at huse
  cases hv : lastValue [.bootloader] toks with
  | none => rw [hv] at huse; exact absurd rfl huse
  | some v => exact ⟨v, rfl, by simpa [hv] using huse⟩

/-- **Autoboot is opt-in on the command line.** In every boot of `main`, for
    every kernel command line, every outcome of the external calls and every
    interleaving of the threads, the autoboot thread, which counts down to
    `kexec_linux`, has been created only when the last
    `droidboot.bootloader=` token of the command line has a value whose `atoi`
    is not `0`, and no update is deferred. -/
theorem autoboot_opt_in {w : World} {st : Startup} {vol : Option Volume} {s : Sys}
    (h : BootReachable w st vol s) (ha : s.auto ≠ .notStarted) :
    ∃ v, lastValue [.bootloader] st.cmdline = some v ∧ (atoi v).val ≠ 0 ∧ s.location = none := by
  obtain ⟨cfg, hcfg, hr⟩ := h
  obtain ⟨huse, hloc⟩ := reachable_auto hr ha
  obtain ⟨v, hv, hval⟩ := useAutoboot_of_cmdline (mainPrefix_ok hcfg) huse
  exact ⟨v, hv, hval, hloc⟩

/-- A boot from the command line `droidboot.bootloader=1`, with no SD card. -/
theorem autoboot_opt_in_bootloader :
    let st : Startup :=
      ⟨none, ["droidboot.bootloader=1".toList], "/etc/disk_layout.conf".toList, true, fun _ => true, true⟩
    let s := mainStartup cacheOnDevice2 autobootConfig none Sys.initial
    BootReachable cacheOnDevice2 st none s ∧ s.auto ≠ .notStarted ∧
      ∃ v, lastValue [.bootloader] st.cmdline = some v ∧ (atoi v).val ≠ 0 ∧ s.location = none :=
  have hb : BootReachable cacheOnDevice2
      ⟨none, ["droidboot.bootloader=1".toList], "/etc/disk_layout.conf".toList, true, fun _ => true, true⟩
      none (mainStartup cacheOnDevice2 autobootConfig none Sys.initial) :=
    ⟨autobootConfig, rfl, .move .startup .initial rfl⟩
  ⟨hb, by decide, autoboot_opt_in hb (by decide)⟩

/-- **Autoboot from the command line.** In every boot of `main`, for every
    kernel command line, every outcome of the external calls and every
    interleaving of the threads, the autoboot thread gets to the mount of the
    second-stage partition and to `kexec_linux` only when the last
    `droidboot.bootloader=` token has a value whose `atoi` is not `0`, no
    update is deferred, and no key event came in any window of a countdown
    whose length is `atoi` of the value of the last `droidboot.delay=` token,
    `8` without one. -/
theorem autoboot_from_cmdline {w : World} {st : Startup} {vol : Option Volume} {s : Sys}
    (h : BootReachable w st vol s) (ha : s.auto = .mount ∨ s.auto = .kexec) :
    (∃ v, lastValue [.bootloader] st.cmdline = some v ∧ (atoi v).val ≠ 0) ∧ s.location = none ∧
      ∀ i ≤ (((lastValue [.delay] st.cmdline).map atoi).getD (CInt.ofNat 8)).toUnsigned + 1,
        w.bootKeyIn i = false := by
  obtain ⟨cfg, hcfg, hr⟩ := h
  have hstarted : s.auto ≠ .notStarted := by rcases ha with ha | ha <;> rw [ha] <;> nofun
  obtain ⟨huse, hloc⟩ := reachable_auto hr hstarted
  have hdelay : cfg.gAutobootDelaySecs = ((lastValue [.delay] st.cmdline).map atoi).getD (CInt.ofNat 8) :=
    (importKernelCmdline_overrides (mainPrefix_ok hcfg)).delay
  refine ⟨useAutoboot_of_cmdline (mainPrefix_ok hcfg) huse, hloc, ?_⟩
  rw [← hdelay]
  exact (countdown_complete w.bootKeyIn cfg.gAutobootDelaySecs).1 (reachable_countdown_complete hr ha).1

/-- The boot from `droidboot.bootloader=1` once its countdown of the default
    eight seconds has run out with no key pressed. -/
theorem autoboot_from_cmdline_default_delay :
    let st : Startup :=
      ⟨none, ["droidboot.bootloader=1".toList], "/etc/disk_layout.conf".toList, true, fun _ => true, true⟩
    let s : Sys := ⟨none, .mount, .listening, false, [.countdown (Config.initial "data".toList).gAutobootDelaySecs true]⟩
    BootReachable cacheOnDevice2 st none s ∧ (s.auto = .mount ∨ s.auto = .kexec) ∧
      (∃ v, lastValue [.bootloader] st.cmdline = some v ∧ (atoi v).val ≠ 0) ∧ s.location = none ∧
      ∀ i ≤ (((lastValue [.delay] st.cmdline).map atoi).getD (CInt.ofNat 8)).toUnsigned + 1,
        cacheOnDevice2.bootKeyIn i = false :=
  let s₁ : Sys := ⟨none, .countdown, .listening, false, []⟩
  let s₂ : Sys := ⟨none, .mount, .listening, false, [.countdown (Config.initial "data".toList).gAutobootDelaySecs true]⟩
  have h₁ : step cacheOnDevice2 autobootConfig none Sys.initial .startup = some s₁ := rfl
  have h₂ : step cacheOnDevice2 autobootConfig none s₁ .autoboot = some s₂ := rfl
  have hb : BootReachable cacheOnDevice2
      ⟨none, ["droidboot.bootloader=1".toList], "/etc/disk_layout.conf".toList, true, fun _ => true, true⟩
      none s₂ :=
    ⟨autobootConfig, rfl, .move _ (.move _ .initial h₁) h₂⟩
  ⟨hb, .inl rfl, autoboot_from_cmdline hb (.inl rfl)⟩

end Droidboot
