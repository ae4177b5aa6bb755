/-
  Droidboot formalization — the configuration globals of `droidboot.c` and
  `parse_cmdline_option`, which sets them from the kernel command line.

  * `Config` holds the seven globals that the `droidboot.*` keys set, with
    their defaults in `Config.initial`;
  * `parseCmdlineOption` is the handler `import_kernel_cmdline` runs on each
    token, and `importKernelCmdline` runs it over a whole command line;
  * `parseCmdlineOption_frame`: a token changes the configuration only when
    it is `droidboot.<key>=<value>` for one of the seven keys, and then only
    in the field the code assigns for that key; `parseCmdlineOption_token`:
    each such token does make that assignment;
  * `parseCmdlineOption_bootdir`: the key `bootdir` assigns the partition
    name, not the directory;
  * `scratchBytes_range`: the scratch size `main` computes from
    `g_scratch_size` is an `int` and positive only for values in `[1, 2047]`;
  * `importKernelCmdline_last`: over a whole command line, each global ends
    at the value of the last token for its key (`Config.Overrides`,
    `lastValue`).
-/
import Droidboot.CLib

namespace Droidboot

/-- The configuration globals of `droidboot.c` (lines 91–111). -/
structure Config where
  gUseAutoboot : CInt
  g2ndstagebootPart : List Char
  g2ndstagebootDir : List Char
  gAutobootDelaySecs : CInt
  gScratchSize : CInt
  gMinBattery : CInt
  gUpdatePause : CInt
deriving DecidableEq

/-- The defaults of the globals; `DATA_PTN` is the build's data partition name. -/
def Config.initial (DATA_PTN : List Char) : Config where
  gUseAutoboot := CInt.ofNat 0
  g2ndstagebootPart := DATA_PTN
  g2ndstagebootDir := "2ndstageboot".toList
  gAutobootDelaySecs := CInt.ofNat 8
  gScratchSize := CInt.ofNat 400
  gMinBattery := CInt.ofNat 10
  gUpdatePause := CInt.ofNat 0

/-! ## `parse_cmdline_option` -/

/-- `parse_cmdline_option(name)`: the token is cut at its first `'='` into
    the key and the value. `strdupOk` says whether `strdup` of the value
    succeeds; `none` is the `die()` that follows a failed one. -/
def parseCmdlineOption (strdupOk : Bool) (c : Config) (name : List Char) : Option Config :=
  match name.span (· ≠ '=') with
  | (_, []) => some c
  | (key, _ :: value) =>
    if key = [] then some c
    else if !"droidboot".toList.isPrefixOf key then some c
    else if key = "droidboot.bootloader".toList then some { c with gUseAutoboot := atoi value }
    else if key = "droidboot.delay".toList then some { c with gAutobootDelaySecs := atoi value }
    else if key = "droidboot.scratch".toList then some { c with gScratchSize := atoi value }
    else if key = "droidboot.minbatt".toList then some { c with gMinBattery := atoi value }
    else if key = "droidboot.bootpart".toList then
      if strdupOk then some { c with g2ndstagebootPart := value } else none
    else if key = "droidboot.bootdir".toList then
      if strdupOk then some { c with g2ndstagebootPart := value } else none
    else if key = "droidboot.updatepause".toList then some { c with gUpdatePause := atoi value }
    else some c

/-! ## The seven keys -/

/-- The keys `parse_cmdline_option` knows after `droidboot.` (spec, §6). -/
inductive Key
  | bootloader | delay | scratch | minbatt | bootpart | bootdir | updatepause
deriving DecidableEq

/-- The text of a key. -/
def Key.name : Key → List Char
  | .bootloader => "bootloader".toList
  | .delay => "delay".toList
  | .scratch => "scratch".toList
  | .minbatt => "minbatt".toList
  | .bootpart => "bootpart".toList
  | .bootdir => "bootdir".toList
  | .updatepause => "updatepause".toList

/-- The token `droidboot.<key>=<value>`. -/
def Key.token (k : Key) (value : List Char) : List Char :=
  "droidboot.".toList ++ k.name ++ '=' :: value

/-- The assignment the branch of `parse_cmdline_option` for the key makes. -/
def Key.assign (value : List Char) (c : Config) : Key → Config
  | .bootloader => { c with gUseAutoboot := atoi value }
  | .delay => { c with gAutobootDelaySecs := atoi value }
  | .scratch => { c with gScratchSize := atoi value }
  | .minbatt => { c with gMinBattery := atoi value }
  | .bootpart => { c with g2ndstagebootPart := value }
  | .bootdir => { c with g2ndstagebootPart := value }
  | .updatepause => { c with gUpdatePause := atoi value }

/-- `strchr(name, '=')`: the token is its key, the first `'='`, then the value. -/
theorem span_eq_split {t key rest : List Char} {x : Char}
    (h : t.span (· ≠ '=') = (key, x :: rest)) : t = key ++ '=' :: rest := by
  rw [List.span_eq_take_drop, Prod.mk.injEq] at h
  have hx := List.head_dropWhile_not (fun c => decide (c ≠ '=')) t
    (by rw [h.2]; exact List.cons_ne_nil _ _)
  simp only [h.2, List.head_cons, decide_eq_false_iff_not, not_not] at hx
  rw [← List.takeWhile_append_dropWhile (· ≠ '=') t, h.1, h.2, hx]

theorem Key.token_of_split {k : Key} {key v t : List Char} (ht : t = key ++ '=' :: v)
    (hk : key = "droidboot.".toList ++ k.name) : t = k.token v := by
  rw [ht, hk, Key.token, List.append_assoc]

/-- A key with no `'='` is cut off whole by `strchr(name, '=')`. -/
theorem span_key {key : List Char} (h : '=' ∉ key) (v : List Char) :
    (key ++ '=' :: v).span (· ≠ '=') = (key, '=' :: v) := by
  have hk : ∀ a ∈ key, decide (a ≠ '=') = true := fun a ha => by
    simp only [ne_eq, decide_eq_true_eq]
    rintro rfl
    exact h ha
  rw [List.span_eq_take_drop, List.takeWhile_append_of_pos hk, List.dropWhile_append_of_pos hk]
  simp

/-- The token of a key makes that key's assignment. -/
theorem parseCmdlineOption_token (c : Config) (k : Key) (v : List Char) :
    parseCmdlineOption true c (k.token v) = some (k.assign v c) := by
  have hk : '=' ∉ "droidboot.".toList ++ k.name := by cases k <;> decide
  rw [parseCmdlineOption, Key.token, span_key hk]
  cases k <;> rfl

/-- **Frame of `parse_cmdline_option`.** A token leaves the configuration as it
    is unless it is `droidboot.<key>=<value>` for one of the seven keys, and
    then the configuration is the one that key's branch assigns. -/
theorem parseCmdlineOption_frame {ok : Bool} {c c' : Config} {t : List Char}
    (h : parseCmdlineOption ok c t = some c') :
    c' = c ∨ ∃ (k : Key) (v : List Char), t = k.token v ∧ c' = k.assign v c := by
  rcases hs : t.span (· ≠ '=') with ⟨key, _ | ⟨x, value⟩⟩ <;>
    simp only [parseCmdlineOption, hs] at h
  · exact .inl (Option.some.inj h).symm
  · have ht := span_eq_split hs
    simp only [ite_eq_iff, Option.some.injEq, reduceCtorEq, and_false, or_false] at h
    rcases h with ⟨-, rfl⟩ | ⟨-, ⟨-, rfl⟩ | ⟨-, ⟨h₁, rfl⟩ | ⟨-, ⟨h₂, rfl⟩ | ⟨-, ⟨h₃, rfl⟩ | ⟨-, ⟨h₄, rfl⟩ |
      ⟨-, ⟨h₅, -, rfl⟩ | ⟨-, ⟨h₆, -, rfl⟩ | ⟨-, ⟨h₇, rfl⟩ | ⟨-, rfl⟩⟩⟩⟩⟩⟩⟩⟩⟩
    · exact .inl rfl
    · exact .inl rfl
    · exact .inr ⟨.bootloader, value, Key.token_of_split ht h₁, rfl⟩
    · exact .inr ⟨.delay, value, Key.token_of_split ht h₂, rfl⟩
    · exact .inr ⟨.scratch, value, Key.token_of_split ht h₃, rfl⟩
    · exact .inr ⟨.minbatt, value, Key.token_of_split ht h₄, rfl⟩
    · exact .inr ⟨.bootpart, value, Key.token_of_split ht h₅, rfl⟩
    · exact .inr ⟨.bootdir, value, Key.token_of_split ht h₆, rfl⟩
    · exact .inr ⟨.updatepause, value, Key.token_of_split ht h₇, rfl⟩
    · exact .inl rfl

/-- `droidboot.bootdir=<value>` assigns `g_2ndstageboot_part`, like
    `droidboot.bootpart`, and leaves `g_2ndstageboot_dir` as it was. -/
theorem parseCmdlineOption_bootdir (c : Config) (v : List Char) :
    parseCmdlineOption true c ("droidboot.bootdir=".toList ++ v) =
      some { c with g2ndstagebootPart := v } :=
  parseCmdlineOption_token c .bootdir v

/-! ## The scratch buffer -/

/-- Modelled from the spec: `MEGABYTE`, from a header absent from the
    sources, the unit of `droidboot.scratch` ("buffer size in MB", spec §6). -/
def MEGABYTE : CInt := CInt.ofNat 1048576

/-- `g_scratch_size * MEGABYTE`, the size `main` gives `fastboot_init`
    (line 524); `none` when the `int` product overflows. -/
def scratchBytes (c : Config) : Option CInt := c.gScratchSize.mul? MEGABYTE

/-- **The scratch size.** For every value of `g_scratch_size`, the product
    with `MEGABYTE` is an `int` exactly when the value lies in
    `[-2048, 2047]`, it is then that many MiB, and it is a positive byte count
    exactly when the value lies in `[1, 2047]`. -/
theorem scratchBytes_range (c : Config) :
    (∀ x, scratchBytes c = some x → x.val = c.gScratchSize.val * 1048576) ∧
    ((scratchBytes c).isSome ↔ -2048 ≤ c.gScratchSize.val ∧ c.gScratchSize.val ≤ 2047) ∧
    ((∃ x, scratchBytes c = some x ∧ 0 < x.val) ↔
      1 ≤ c.gScratchSize.val ∧ c.gScratchSize.val ≤ 2047) := by
  have hm : MEGABYTE.val = 1048576 := rfl
  have hval : ∀ x, scratchBytes c = some x → x.val = c.gScratchSize.val * 1048576 :=
    fun x h => by rwa [scratchBytes, CInt.mul?_eq_some_iff, hm] at h
  have hsome : (scratchBytes c).isSome ↔
      -2048 ≤ c.gScratchSize.val ∧ c.gScratchSize.val ≤ 2047 := by
    rw [scratchBytes, CInt.mul?_isSome_iff, hm, INT_MIN, INT_MAX]
    omega
  refine ⟨hval, hsome, ⟨fun ⟨x, hx, hpos⟩ => ?_, fun h => ?_⟩⟩
  · have := hsome.1 (by rw [hx]; rfl)
    rw [hval x hx] at hpos
    omega
  · obtain ⟨x, hx⟩ := Option.isSome_iff_exists.1 (hsome.2 ⟨by omega, h.2⟩)
    exact ⟨x, hx, by rw [hval x hx]; omega⟩

/-- `droidboot.scratch=2048` overflows the product, and `droidboot.scratch=0`
    makes a buffer of no bytes. -/
theorem scratchBytes_2048_overflows :
    (parseCmdlineOption true (Config.initial "data".toList) "droidboot.scratch=2048".toList).bind
        scratchBytes = none ∧
      (parseCmdlineOption true (Config.initial "data".toList) "droidboot.scratch=0".toList).bind
        scratchBytes = some (CInt.ofNat 0) := by
  decide

/-- `import_kernel_cmdline(parse_cmdline_option)` over the tokens of a
    command line, stopping at the first `die()`. -/
def importKernelCmdline (strdupOk : Bool) : Config → List (List Char) → Option Config
  | c, [] => some c
  | c, t :: ts => (parseCmdlineOption strdupOk c t).bind (importKernelCmdline strdupOk · ts)

/-! ## A whole command line -/

/-- `droidboot.<key>=`, which starts the tokens of a key. -/
def Key.tag (k : Key) : List Char := "droidboot.".toList ++ k.name ++ ['=']

/-- The value of the token, when it is a token of the key. -/
def Key.value? (k : Key) (t : List Char) : Option (List Char) :=
  if k.tag.isPrefixOf t then some (t.drop k.tag.length) else none

/-- The value of the last token of the command line for one of the keys `ks`. -/
def lastValue (ks : List Key) : List (List Char) → Option (List Char)
  | [] => none
  | t :: ts => (lastValue ks ts).or (ks.findSome? (·.value? t))

/-- `c'` is `c` with each global set by the value `val` gives for its keys,
    when it gives one: the partition name by `bootpart` and by `bootdir`, and
    `g_2ndstageboot_dir` by none. -/
structure Config.Overrides (val : List Key → Option (List Char)) (c c' : Config) : Prop where
  useAutoboot : c'.gUseAutoboot = ((val [.bootloader]).map atoi).getD c.gUseAutoboot
  delay : c'.gAutobootDelaySecs = ((val [.delay]).map atoi).getD c.gAutobootDelaySecs
  scratch : c'.gScratchSize = ((val [.scratch]).map atoi).getD c.gScratchSize
  minBattery : c'.gMinBattery = ((val [.minbatt]).map atoi).getD c.gMinBattery
  updatePause : c'.gUpdatePause = ((val [.updatepause]).map atoi).getD c.gUpdatePause
  part : c'.g2ndstagebootPart = (val [.bootpart, .bootdir]).getD c.g2ndstagebootPart
  dir : c'.g2ndstagebootDir = c.g2ndstagebootDir

theorem Key.token_eq (k : Key) (v : List Char) : k.token v = k.tag ++ v := by
  simp [Key.token, Key.tag]

/-- No key's tag starts the tag of another. -/
theorem Key.eq_of_isPrefixOf {k k' : Key} (h : k.tag.isPrefixOf k'.tag = true) : k = k' := by
  cases k <;> cases k' <;> first | rfl | exact absurd h (by decide)

theorem Key.value?_token (k k' : Key) (v : List Char) :
    k'.value? (k.token v) = if k' = k then some v else none := by
  rw [Key.value?, Key.token_eq]
  by_cases h : k' = k
  · subst h
    simp [List.isPrefixOf_iff_prefix.2 (List.prefix_append _ _)]
  · have hp : k'.tag.isPrefixOf (k.tag ++ v) = false := by
      rw [Bool.eq_false_iff]
      intro hp
      rcases List.prefix_or_prefix_of_prefix (List.isPrefixOf_iff_prefix.1 hp)
        (List.prefix_append k.tag v) with h' | h'
      · exact h (Key.eq_of_isPrefixOf (List.isPrefixOf_iff_prefix.2 h'))
      · exact h (Key.eq_of_isPrefixOf (List.isPrefixOf_iff_prefix.2 h')).symm
    simp [hp, h]

theorem Key.eq_token_of_value? {k : Key} {t v : List Char} (h : k.value? t = some v) :
    t = k.token v := by
  rw [Key.value?] at h
  split_ifs at h with hp
  cases h
  rw [Key.token_eq]
  exact (List.prefix_iff_eq_append.1 (List.isPrefixOf_iff_prefix.1 hp)).symm

theorem findSome?_value?_token (ks : List Key) (k : Key) (v : List Char) :
    ks.findSome? (·.value? (k.token v)) = if k ∈ ks then some v else none := by
  induction ks with
  | nil => simp
  | cons k' ks ih =>
    rw [List.findSome?_cons, Key.value?_token]
    by_cases h : k' = k
    · simp [h]
    · simp [h, ih, Ne.symm h]

theorem findSome?_value?_of_not_token (ks : List Key) {t : List Char}
    (h : ∀ (k : Key) (v : List Char), t ≠ k.token v) :
    ks.findSome? (·.value? t) = none :=
  List.findSome?_eq_none_iff.2 fun k _ => by
    cases hk : k.value? t with
    | none => rfl
    | some v => exact absurd (Key.eq_token_of_value? hk) (h k v)

theorem parseCmdlineOption_isSome (c : Config) (t : List Char) :
    (parseCmdlineOption true c t).isSome := by
  unfold parseCmdlineOption
  split
  · rfl
  · simp only [↓reduceIte, apply_ite Option.isSome, Option.isSome_some, ite_self]

/-- The token of a key makes that key's assignment, unless the key's value
    is `strdup`ed and `strdup` fails. -/
theorem parseCmdlineOption_key (ok : Bool) (c : Config) (k : Key) (v : List Char) :
    parseCmdlineOption ok c (k.token v) =
      if (k = .bootpart ∨ k = .bootdir) ∧ ok = false then none else some (k.assign v c) := by
  have hk : '=' ∉ "droidboot.".toList ++ k.name := by cases k <;> decide
  rw [parseCmdlineOption, Key.token, span_key hk]
  cases k <;> cases ok <;> rfl

/-- One token sets the globals of its key. -/
theorem parseCmdlineOption_overrides {ok : Bool} {c c₁ : Config} {t : List Char}
    (h : parseCmdlineOption ok c t = some c₁) :
    c.Overrides (fun ks => ks.findSome? (·.value? t)) c₁ := by
  by_cases ht : ∃ (k : Key) (v : List Char), t = k.token v
  · obtain ⟨k, v, rfl⟩ := ht
    rw [parseCmdlineOption_key] at h
    split_ifs at h
    cases h
    simp only [findSome?_value?_token]
    cases k <;> exact ⟨rfl, rfl, rfl, rfl, rfl, rfl, rfl⟩
  · push_neg at ht
    rcases parseCmdlineOption_frame h with rfl | ⟨k, v, ht', -⟩
    · simp only [findSome?_value?_of_not_token _ ht]
      exact ⟨rfl, rfl, rfl, rfl, rfl, rfl, rfl⟩
    · exact absurd ht' (ht k v)

theorem Option.getD_map_or {α β : Type} (f : α → β) (a b : Option α) (d : β) :
    ((a.or b).map f).getD d = (a.map f).getD ((b.map f).getD d) := by
  cases a <;> rfl

/-- A later assignment of a global overrides an earlier one. -/
theorem Config.Overrides.trans {v₁ v₂ : List Key → Option (List Char)} {c c₁ c₂ : Config}
    (h₁ : c.Overrides v₁ c₁) (h₂ : c₁.Overrides v₂ c₂) :
    c.Overrides (fun ks => (v₂ ks).or (v₁ ks)) c₂ := by
  constructor
  · rw [h₂.useAutoboot, h₁.useAutoboot, Option.getD_map_or]
  · rw [h₂.delay, h₁.delay, Option.getD_map_or]
  · rw [h₂.scratch, h₁.scratch, Option.getD_map_or]
  · rw [h₂.minBattery, h₁.minBattery, Option.getD_map_or]
  · rw [h₂.updatePause, h₁.updatePause, Option.getD_map_or]
  · rw [h₂.part, h₁.part]
    cases v₂ [.bootpart, .bootdir] <;> rfl
  · rw [h₂.dir, h₁.dir]

/-- A command line `import_kernel_cmdline` gets through leaves each global at
    the value of the last token for its key. -/
theorem importKernelCmdline_overrides {ok : Bool} {c c' : Config} {toks : List (List Char)}
    (h : importKernelCmdline ok c toks = some c') : c.Overrides (fun ks => lastValue ks toks) c' := by
  induction toks generalizing c with
  | nil =>
    cases h
    constructor <;> rfl
  | cons t ts ih =>
    obtain ⟨c₁, hp, hi⟩ := Option.bind_eq_some.1 h
    exact (parseCmdlineOption_overrides hp).trans (ih hi)

/-- **The last token wins.** For every command line, when every `strdup`
    succeeds, `import_kernel_cmdline` gets through and leaves each global at
    the value of the last token for its key, or as it was when no token has
    its key: the partition name at the value of the last `bootpart` or
    `bootdir` token, and `g_2ndstageboot_dir` as it was. -/
theorem importKernelCmdline_last (c : Config) (toks : List (List Char)) :
    ∃ c', importKernelCmdline true c toks = some c' ∧ c.Overrides (fun ks => lastValue ks toks) c' := by
  suffices h : (importKernelCmdline true c toks).isSome by
    obtain ⟨c', hc'⟩ := Option.isSome_iff_exists.1 h
    exact ⟨c', hc', importKernelCmdline_overrides hc'⟩
  induction toks generalizing c with
  | nil => rfl
  | cons t ts ih =>
    obtain ⟨c₁, hc₁⟩ := Option.isSome_iff_exists.1 (parseCmdlineOption_isSome c t)
    simpa [importKernelCmdline, hc₁] using ih c₁

end Droidboot
