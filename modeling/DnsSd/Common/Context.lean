import DnsSd.Common.Batch
import Mathlib.Data.Nat.Digits

/-!
# Common — Context

`[dns_sd_common.c]`.  `make_service_name` over the C string functions it calls, the host name
`dns_sd_create_context` reads, and `dns_sd_create_context` itself with its write `ctx[j]` made
partial: an index past the `calloc`ed array is undefined behaviour, here `none`.

* `dnsSdCreateContext_eq`: the batch is the AGWPE slot, then one slot per non-zero KISS port in
  configured order, then inert slots; in particular no write falls outside the array.
* `makeServiceName_eq_take`: `make_service_name` is the base name, the channel part and the host
  part, each part cut to `temp`'s 63 bytes and the whole to `sname`'s 127.
* `dnsSdCreateContext_names`: in the batch, `temp` never cuts; a name is cut only to 127 bytes.
* `dnsSdCreateContext_repeats_kiss_name`: two KISS ports on one channel get one name.
-/

namespace DnsSd

open DnsSdService

/-! ### `make_service_name` -/

/-- `strlcpy(dst, src, size)`: the string `src`, cut to `size - 1` bytes. -/
def strlcpy (src : Bytes) (size : Nat) : Bytes := (cstr src).take (size - 1)

/-- `strlcat(dst, src, size)`: the string `src` appended to `dst` while the whole stays below
`size` bytes. -/
def strlcat (dst src : Bytes) (size : Nat) : Bytes := dst ++ (cstr src).take (size - 1 - dst.length)

/-- `snprintf(buf, size, …)` of the formatted text: its first `size - 1` bytes. -/
def snprintf (text : Bytes) (size : Nat) : Bytes := text.take (size - 1)

/-- `make_service_name`, into its 128-byte `sname` through its 64-byte `temp`. -/
def makeServiceName (basename hostname : Bytes) (channel : Int) : Bytes :=
  let sname := if basename.headD 0 ≠ 0 then strlcpy basename 128 else ascii "Dire Wolf"
  let sname :=
    if channel ≠ -1 then strlcat sname (snprintf (ascii " channel " ++ ascii (toString channel)) 64) 128
    else sname
  if hostname.headD 0 ≠ 0 then strlcat sname (snprintf (ascii " on " ++ cstr hostname) 64) 128
  else sname

/-- `strlcat` never lets the string reach `size` bytes. -/
theorem length_strlcat_le {dst : Bytes} {size : Nat} (h : dst.length ≤ size - 1) (src : Bytes) :
    (strlcat dst src size).length ≤ size - 1 := by
  simp only [strlcat, List.length_append, List.length_take]
  omega

/-- `make_service_name` returns at most 127 bytes: its only bound is the size of `sname`. -/
theorem makeServiceName_length_le (basename hostname : Bytes) (channel : Int) :
    (makeServiceName basename hostname channel).length ≤ 127 := by
  have hcat : ∀ (c : Prop) [Decidable c] (s t : Bytes), s.length ≤ 127 →
      (if c then strlcat s t 128 else s).length ≤ 127 := fun c _ s t h => by
    split
    · exact length_strlcat_le h t
    · exact h
  have h₀ : (if basename.headD 0 ≠ 0 then strlcpy basename 128 else ascii "Dire Wolf").length ≤
      127 := by
    split
    · simp only [strlcpy, List.length_take]; omega
    · decide
  exact hcat _ _ _ (hcat _ _ _ h₀)

/-- The digits `Nat.toDigitsCore` writes in front of `ds` are each some `Nat.digitChar`. -/
theorem mem_toDigitsCore {base : Nat} :
    ∀ {fuel n : Nat} {ds : List Char} {c : Char}, c ∈ Nat.toDigitsCore base fuel n ds →
      c ∈ ds ∨ ∃ n, c = Nat.digitChar (n % base)
  | 0, _, _, _, h => .inl h
  | fuel + 1, n, ds, c, h => by
    simp only [Nat.toDigitsCore] at h
    split_ifs at h
    · rcases List.mem_cons.mp h with rfl | h
      · exact .inr ⟨_, rfl⟩
      · exact .inl h
    · rcases mem_toDigitsCore h with h | h
      · rcases List.mem_cons.mp h with rfl | h
        · exact .inr ⟨_, rfl⟩
        · exact .inl h
      · exact .inr h

/-- `%i` writes decimal digits and a minus sign, never a NUL. -/
theorem nul_not_mem_ascii_toString (c : Int) : (0 : UInt8) ∉ ascii (toString c) := by
  have hd : ∀ d < 10, (Nat.digitChar d).toNat.toUInt8 ≠ 0 := by decide
  have hn : ∀ n : Nat, (0 : UInt8) ∉ ascii (toString n) := fun n h => by
    simp only [ascii, toString, Nat.repr, Nat.toDigits, String.toList, List.asString,
      List.mem_map] at h
    obtain ⟨ch, hm, hch⟩ := h
    rcases mem_toDigitsCore hm with hm | ⟨m, rfl⟩
    · exact absurd hm (List.not_mem_nil _)
    · exact hd _ (Nat.mod_lt _ (by decide)) hch
  cases c with
  | ofNat n => exact hn n
  | negSucc n =>
    change (0 : UInt8) ∉ ascii ("-" ++ toString (n + 1))
    simp only [ascii, String.toList, String.data_append, List.map_append, List.mem_append]
    exact fun h => h.elim (by decide) (hn (n + 1))

theorem cstr_of_nul_not_mem {b : Bytes} (h : (0 : UInt8) ∉ b) : cstr b = b :=
  List.takeWhile_eq_self_iff.mpr fun _ hx => decide_eq_true fun h0 => h (h0 ▸ hx)

theorem nul_not_mem_cstr (b : Bytes) : (0 : UInt8) ∉ cstr b := fun h => by
  simpa using List.mem_takeWhile_imp h

theorem nul_not_mem_take_append {s t : Bytes} (hs : (0 : UInt8) ∉ s) (ht : (0 : UInt8) ∉ t)
    (n : Nat) : (0 : UInt8) ∉ (s ++ t).take n := fun h =>
  (List.mem_append.mp (List.mem_of_mem_take h)).elim hs ht

theorem take_append_take (x y : Bytes) (n : Nat) : (x.take n ++ y).take n = (x ++ y).take n := by
  by_cases h : x.length ≤ n
  · rw [List.take_of_length_le h]
  · rw [List.take_left' (by simp; omega), List.take_append_of_le_length (by omega)]

/-- `strlcat` into the 128-byte `sname` of a string with no NUL in it: the first 127 bytes of the
two strings' concatenation, whatever `sname` held past its own 127 bytes. -/
theorem strlcat_take (x : Bytes) {t : Bytes} (ht : (0 : UInt8) ∉ t) :
    strlcat (x.take 127) t 128 = (x ++ t).take 127 := by
  rw [← take_append_take x t, strlcat, cstr_of_nul_not_mem ht, List.take_append_eq_append_take,
    List.take_of_length_le (List.length_take_le 127 x)]

/-- **`make_service_name` is a cut concatenation.**  The chain of `strlcpy`, `snprintf` and
`strlcat` through the 64-byte `temp` and the 128-byte `sname` computes the base name (or
`Dire Wolf`), then ` channel N` cut to 63 bytes, then ` on host` cut to 63 bytes, all cut to 127
bytes.  `strlcat` stops at no byte of the parts, since `%i` writes no NUL and the host name is
read up to its first one. -/
theorem makeServiceName_eq_take (basename hostname : Bytes) (channel : Int) :
    makeServiceName basename hostname channel =
      ((if basename.headD 0 ≠ 0 then cstr basename else ascii "Dire Wolf") ++
        (if channel ≠ -1 then (ascii " channel " ++ ascii (toString channel)).take 63 else []) ++
        (if hostname.headD 0 ≠ 0 then (ascii " on " ++ cstr hostname).take 63 else [])).take
          127 := by
  have h₀ : (if basename.headD 0 ≠ 0 then strlcpy basename 128 else ascii "Dire Wolf") =
      (if basename.headD 0 ≠ 0 then cstr basename else ascii "Dire Wolf").take 127 := by
    split
    · rfl
    · decide
  have hA : (0 : UInt8) ∉ (ascii " channel " ++ ascii (toString channel)).take 63 :=
    nul_not_mem_take_append (by decide) (nul_not_mem_ascii_toString channel) 63
  have hB : (0 : UInt8) ∉ (ascii " on " ++ cstr hostname).take 63 :=
    nul_not_mem_take_append (by decide) (nul_not_mem_cstr hostname) 63
  simp only [makeServiceName, h₀, snprintf]
  split_ifs <;>
    simp only [strlcat_take _ hA, strlcat_take _ hB, List.append_assoc, List.append_nil,
      List.nil_append]

/-- The host name `dns_sd_create_context` keeps of `gethostname`'s answer (`none`: it failed):
the 51-byte buffer with its last byte forced to NUL, cut at the first dot. -/
def shortHostname : Option Bytes → Bytes
  | some raw => (cstr (raw.take 50)).takeWhile (· ≠ '.'.toNat.toUInt8)
  | none => []

/-! ### `dns_sd_create_context` -/

/-- `ctx[j] = svc`, or `none` when `j` is outside the array. -/
def setSlot (ctx : Batch) (j : Nat) (svc : DnsSdService) : Option Batch :=
  if j < ctx.length then some (ctx.set j svc) else none

/-- The slot `dns_sd_create_context` fills for a non-zero port. -/
def mkSlot (basename hostname : Bytes) (port channel : Int) : DnsSdService :=
  ⟨port, channel, some (makeServiceName basename hostname channel)⟩

/-- The KISS loop of `dns_sd_create_context` over the remaining `kiss_port` and `kiss_chan`,
with `j` the next slot to fill. -/
def kissLoop (basename hostname : Bytes) : List Int → List Int → Nat → Batch → Option Batch
  | p :: ps, c :: cs, j, ctx =>
    if p ≠ 0 then
      (setSlot ctx j (mkSlot basename hostname p c)).bind (kissLoop basename hostname ps cs (j + 1))
    else kissLoop basename hostname ps cs j ctx
  | _, _, _, ctx => some ctx

/-- `dns_sd_create_context`, given what `gethostname` answers. -/
def dnsSdCreateContext (mc : MiscConfig) (gethostname : Option Bytes) : Option Batch :=
  let hostname := shortHostname gethostname
  let ctx := List.replicate mc.maxDnsSdServices DnsSdService.zero
  (if mc.agwpePort ≠ 0 then setSlot ctx 0 (mkSlot mc.dnsSdName hostname mc.agwpePort (-1))
    else some ctx).bind (kissLoop mc.dnsSdName hostname mc.kissPort mc.kissChan 1)

/-- The KISS slots the loop fills: one per non-zero port, in configured order. -/
def kissSlots (basename hostname : Bytes) : List Int → List Int → Batch
  | p :: ps, c :: cs =>
    if p ≠ 0 then mkSlot basename hostname p c :: kissSlots basename hostname ps cs
    else kissSlots basename hostname ps cs
  | _, _ => []

/-- Slot 0: AGWPE when its port is non-zero, otherwise inert. -/
def agwpeSlot (mc : MiscConfig) (hostname : Bytes) : DnsSdService :=
  if mc.agwpePort ≠ 0 then mkSlot mc.dnsSdName hostname mc.agwpePort (-1) else .zero

theorem kissSlots_length (b h : Bytes) :
    ∀ (ps cs : List Int), cs.length = ps.length →
      (kissSlots b h ps cs).length = ps.countP (· ≠ 0)
  | [], _, _ => by simp [kissSlots]
  | _ :: _, [], hl => by simp at hl
  | p :: ps, c :: cs, hl => by
    have ih := kissSlots_length b h ps cs (by simpa using hl)
    by_cases hp : p = 0 <;> simp [kissSlots, hp, ih]

theorem set_length_replicate (pre : Batch) (m : Nat) (x : DnsSdService) :
    (pre ++ List.replicate (m + 1) DnsSdService.zero).set pre.length x =
      (pre ++ [x]) ++ List.replicate m DnsSdService.zero := by
  simp [List.set_append_right, List.replicate_succ]

/-- The KISS loop, from slot `pre.length` of `pre` followed by enough inert slots. -/
theorem kissLoop_eq (b h : Bytes) :
    ∀ (ps cs : List Int) (pre : Batch) (m : Nat), cs.length = ps.length →
      ps.countP (· ≠ 0) ≤ m →
      kissLoop b h ps cs pre.length (pre ++ List.replicate m .zero) =
        some (pre ++ kissSlots b h ps cs ++ List.replicate (m - ps.countP (· ≠ 0)) .zero)
  | [], _, pre, m, _, _ => by cases ‹List Int› <;> simp [kissLoop, kissSlots]
  | _ :: _, [], _, _, hl, _ => by simp at hl
  | p :: ps, c :: cs, pre, m, hl, hk => by
    by_cases hp : p = 0
    · simp only [kissLoop, kissSlots, hp, ne_eq, not_true_eq_false, if_false]
      simpa [hp] using kissLoop_eq b h ps cs pre m (by simpa using hl) (by simpa [hp] using hk)
    · have hc : (p :: ps).countP (· ≠ 0) = ps.countP (· ≠ 0) + 1 :=
        List.countP_cons_of_pos _ _ (by simpa using hp)
      rw [hc] at hk ⊢
      obtain ⟨m, rfl⟩ : ∃ m', m = m' + 1 := ⟨m - 1, by omega⟩
      have ih := kissLoop_eq b h ps cs (pre ++ [mkSlot b h p c]) m (by simpa using hl) (by omega)
      simp only [List.length_append, List.length_singleton] at ih
      have hlen : pre.length < (pre ++ List.replicate (m + 1) DnsSdService.zero).length := by simp
      simp only [kissLoop, kissSlots, ne_eq, hp, not_false_eq_true, if_true, setSlot, hlen,
        set_length_replicate, Option.some_bind, ih, Nat.add_sub_add_right]
      simp

/-- **The shape of the batch.**  `dns_sd_create_context` writes only inside its array and
returns the AGWPE slot, the non-zero KISS ports in configured order with their channels, and
inert slots up to `MAX_DNS_SD_SERVICES`. -/
theorem dnsSdCreateContext_eq (mc : MiscConfig) (g : Option Bytes) :
    dnsSdCreateContext mc g =
      some (agwpeSlot mc (shortHostname g) ::
        kissSlots mc.dnsSdName (shortHostname g) mc.kissPort mc.kissChan ++
        List.replicate (mc.maxKissTcpPorts - mc.kissPort.countP (· ≠ 0)) .zero) := by
  have hk := kissLoop_eq mc.dnsSdName (shortHostname g) mc.kissPort mc.kissChan
    [agwpeSlot mc (shortHostname g)] mc.maxKissTcpPorts mc.kissChan_length
    (List.countP_le_length _)
  by_cases ha : mc.agwpePort = 0 <;>
    simpa [dnsSdCreateContext, agwpeSlot, ha, setSlot, MiscConfig.maxDnsSdServices,
      Nat.add_comm 1, List.replicate_succ] using hk

/-! ### Sample configurations -/

/-- AGWPE alone on port 8000, no base name. -/
def agwpeOnly : MiscConfig := ⟨8000, [], [], [], rfl⟩

/-- AGWPE on port 8000 and one KISS port, 8001, on channel 0. -/
def agwpeAndKiss : MiscConfig := ⟨8000, [8001], [0], [], rfl⟩

/-! ### The names of the batch -/

theorem length_ascii (s : String) : (ascii s).length = s.length := by
  rw [ascii, List.length_map]
  rfl

/-- `%i` of a C `int` writes at most 11 bytes. -/
theorem length_ascii_toString_le {c : Int} (h₁ : -2 ^ 31 ≤ c) (h₂ : c < 2 ^ 31) :
    (ascii (toString c)).length ≤ 11 := by
  rw [length_ascii]
  cases c with
  | ofNat n =>
    have : n < 10 ^ 10 := by rw [Int.ofNat_eq_coe] at h₂; omega
    exact (Nat.repr_length n 10 (by decide) this).trans (by decide)
  | negSucc n =>
    have : n + 1 < 10 ^ 10 := by rw [Int.negSucc_eq] at h₁; omega
    change ("-" ++ toString (n + 1)).length ≤ 11
    rw [String.length_append]
    exact Nat.add_le_add_left (Nat.repr_length (n + 1) 10 (by decide) this) _

theorem length_shortHostname_le (g : Option Bytes) : (shortHostname g).length ≤ 50 := by
  cases g with
  | none => simp [shortHostname]
  | some raw =>
    calc (shortHostname (some raw)).length ≤ (cstr (raw.take 50)).length :=
          (List.takeWhile_sublist _).length_le
      _ ≤ (raw.take 50).length := (List.takeWhile_sublist _).length_le
      _ ≤ 50 := List.length_take_le _ _

theorem nul_not_mem_shortHostname (g : Option Bytes) : (0 : UInt8) ∉ shortHostname g := by
  cases g with
  | none => simp [shortHostname]
  | some raw => exact fun h => nul_not_mem_cstr _ (List.takeWhile_subset _ h)

theorem exists_mkSlot_of_mem_kissSlots {b h : Bytes} :
    ∀ {ps cs : List Int} {svc : DnsSdService}, svc ∈ kissSlots b h ps cs →
      ∃ p c, c ∈ cs ∧ svc = mkSlot b h p c
  | [], _, _, hm => by simp [kissSlots] at hm
  | _ :: _, [], _, hm => by simp [kissSlots] at hm
  | p :: ps, c :: cs, svc, hm => by
    simp only [kissSlots] at hm
    split_ifs at hm
    · rcases List.mem_cons.mp hm with rfl | hm
      · exact ⟨p, c, List.mem_cons_self _ _, rfl⟩
      · obtain ⟨p', c', hc, rfl⟩ := exists_mkSlot_of_mem_kissSlots hm
        exact ⟨p', c', List.mem_cons_of_mem _ hc, rfl⟩
    · obtain ⟨p', c', hc, rfl⟩ := exists_mkSlot_of_mem_kissSlots hm
      exact ⟨p', c', List.mem_cons_of_mem _ hc, rfl⟩

/-- The name of a slot `dns_sd_create_context` fills, for a channel a C `int` holds: `temp` cuts
neither part. -/
theorem makeServiceName_shortHostname (b : Bytes) (g : Option Bytes) {c : Int}
    (hc : -2 ^ 31 ≤ c ∧ c < 2 ^ 31) :
    makeServiceName b (shortHostname g) c =
      ((if b.headD 0 ≠ 0 then cstr b else ascii "Dire Wolf") ++
        (if c ≠ -1 then ascii " channel " ++ ascii (toString c) else []) ++
        (if (shortHostname g).headD 0 ≠ 0 then ascii " on " ++ shortHostname g else [])).take
          127 := by
  have hA : (ascii " channel " ++ ascii (toString c)).length ≤ 63 := by
    have := length_ascii_toString_le hc.1 hc.2
    simp only [List.length_append]
    have h9 : (ascii " channel ").length = 9 := by decide
    omega
  have hB : (ascii " on " ++ shortHostname g).length ≤ 63 := by
    have := length_shortHostname_le g
    simp only [List.length_append]
    have h4 : (ascii " on ").length = 4 := by decide
    omega
  rw [makeServiceName_eq_take, cstr_of_nul_not_mem (nul_not_mem_shortHostname g),
    List.take_of_length_le hA, List.take_of_length_le hB]

/-- **`temp` never cuts in `dns_sd_create_context`.**  For every configuration whose channels
a C `int` holds and every answer of `gethostname`, every name in the batch is the base name (or
`Dire Wolf`), ` channel N` unless the channel is `-1`, and ` on host` unless the host name is
empty, all cut to `sname`'s 127 bytes only: the host name has at most 50 bytes and `%i` writes at
most 11, so the 64-byte `temp` cuts neither. -/
theorem dnsSdCreateContext_names {mc : MiscConfig} {g : Option Bytes} {ctx : Batch}
    (h : dnsSdCreateContext mc g = some ctx) (hc : ∀ c ∈ mc.kissChan, -2 ^ 31 ≤ c ∧ c < 2 ^ 31) :
    ∀ svc ∈ ctx, ∀ n, svc.name = some n →
      n = ((if mc.dnsSdName.headD 0 ≠ 0 then cstr mc.dnsSdName else ascii "Dire Wolf") ++
        (if svc.channel ≠ -1 then ascii " channel " ++ ascii (toString svc.channel) else []) ++
        (if (shortHostname g).headD 0 ≠ 0 then ascii " on " ++ shortHostname g else [])).take
          127 := by
  rw [dnsSdCreateContext_eq, Option.some.injEq] at h
  subst h
  intro svc hm n hn
  simp only [List.cons_append, List.mem_cons, List.mem_append, List.mem_replicate] at hm
  rcases hm with rfl | hm | ⟨-, rfl⟩
  · by_cases ha : mc.agwpePort = 0
    · simp [agwpeSlot, ha, DnsSdService.zero] at hn
    · simp only [agwpeSlot, ha, ne_eq, not_false_eq_true, if_true, mkSlot, Option.some.injEq] at hn ⊢
      subst hn
      exact @makeServiceName_shortHostname _ g (-1) (by norm_num)
  · obtain ⟨p, c, hcm, rfl⟩ := exists_mkSlot_of_mem_kissSlots hm
    simp only [mkSlot, Option.some.injEq] at hn
    subst hn
    exact makeServiceName_shortHostname _ g (hc c hcm)
  · cases hn

/-- AGWPE on 8000 and KISS on 8001, channel 0, host `host`: the names are `Dire Wolf on host` and
`Dire Wolf channel 0 on host`, neither cut. -/
theorem agwpe_and_kiss_names_uncut :
    ∃ ctx, dnsSdCreateContext agwpeAndKiss (some (ascii "host")) = some ctx ∧
      (∀ c ∈ agwpeAndKiss.kissChan, -2 ^ 31 ≤ c ∧ c < 2 ^ 31) ∧
      ∀ svc ∈ ctx, ∀ n, svc.name = some n →
        n = ((if agwpeAndKiss.dnsSdName.headD 0 ≠ 0 then cstr agwpeAndKiss.dnsSdName
          else ascii "Dire Wolf") ++
          (if svc.channel ≠ -1 then ascii " channel " ++ ascii (toString svc.channel) else []) ++
          (if (shortHostname (some (ascii "host"))).headD 0 ≠ 0 then
            ascii " on " ++ shortHostname (some (ascii "host")) else [])).take 127 := by
  have hc : ∀ c ∈ agwpeAndKiss.kissChan, -2 ^ 31 ≤ c ∧ c < 2 ^ 31 := by
    simp [agwpeAndKiss]
  obtain ⟨ctx, h⟩ := Option.isSome_iff_exists.mp
    (show (dnsSdCreateContext agwpeAndKiss (some (ascii "host"))).isSome from by decide)
  exact ⟨ctx, h, hc, dnsSdCreateContext_names h hc⟩

/-! ### Announcement requests -/

/-- One request to announce a service, as both daemons take it: name, type, and the port as
a `uint16_t` in host byte order. -/
structure Request where
  name : Option Bytes
  type : Bytes
  port : UInt16
  deriving DecidableEq, Repr

/-- The request both backends make for slot `i`. -/
def request (i : Nat) (svc : DnsSdService) : Request :=
  ⟨svc.name, serviceType i, toUInt16 svc.port⟩

/-- The requests a batch gives rise to from index `i`: one per active slot, in slot order. -/
def slotEntries : Nat → Batch → List Request
  | _, [] => []
  | i, svc :: rest =>
    if svc.port = 0 then slotEntries (i + 1) rest else request i svc :: slotEntries (i + 1) rest

/-! ### DNS-SD instance names -/

/-- A continuation byte, `%x80-BF`. -/
def utf8Tail (b : UInt8) : Bool := 0x80 ≤ b && b ≤ 0xBF

/-- The second byte of a three-byte character led by `a` (RFC 3629 §4). -/
def utf8Second3 (a b : UInt8) : Bool :=
  if a = 0xE0 then 0xA0 ≤ b && b ≤ 0xBF
  else if a = 0xED then 0x80 ≤ b && b ≤ 0x9F
  else utf8Tail b

/-- The second byte of a four-byte character led by `a` (RFC 3629 §4). -/
def utf8Second4 (a b : UInt8) : Bool :=
  if a = 0xF0 then 0x90 ≤ b && b ≤ 0xBF
  else if a = 0xF4 then 0x80 ≤ b && b ≤ 0x8F
  else utf8Tail b

/-- RFC 3629 §4 `UTF8-octets`: the bytes split into whole UTF-8 characters. -/
def utf8Valid : Bytes → Bool
  | [] => true
  | a :: rest =>
    if a ≤ 0x7F then utf8Valid rest
    else if 0xC2 ≤ a ∧ a ≤ 0xDF then
      match rest with
      | b :: rest => utf8Tail b && utf8Valid rest
      | [] => false
    else if 0xE0 ≤ a ∧ a ≤ 0xEF then
      match rest with
      | b :: c :: rest => utf8Second3 a b && utf8Tail c && utf8Valid rest
      | _ => false
    else if 0xF0 ≤ a ∧ a ≤ 0xF4 then
      match rest with
      | b :: c :: d :: rest => utf8Second4 a b && utf8Tail c && utf8Tail d && utf8Valid rest
      | _ => false
    else false

set_option maxRecDepth 8192 in
/-- No base name, a KISS port on channel 0, and a 41-byte host name: `make_service_name`, and
the batch's KISS slot, hold 64 octets, one more than a DNS-SD instance name may have.  A 63-byte
base name, channel 10 and a 50-byte host name ending in `é` give 128 bytes, which `strlcat` cuts
between the two bytes of the `é`. -/
theorem make_service_name_exceeds_instance_name :
    dnsSdCreateContext agwpeAndKiss (some (List.replicate 41 97)) =
      some [⟨8000, -1, some (ascii "Dire Wolf on " ++ List.replicate 41 97)⟩,
        ⟨8001, 0, some (ascii "Dire Wolf channel 0 on " ++ List.replicate 41 97)⟩] ∧
    shortHostname (some (List.replicate 41 97)) = List.replicate 41 97 ∧
    (ascii "Dire Wolf channel 0 on " ++ List.replicate 41 97).length = 64 ∧
    shortHostname (some (List.replicate 48 98 ++ [0xC3, 0xA9])) = List.replicate 48 98 ++ [0xC3, 0xA9] ∧
    utf8Valid (List.replicate 63 97) = true ∧ utf8Valid (List.replicate 48 98 ++ [0xC3, 0xA9]) = true ∧
    makeServiceName (List.replicate 63 97) (List.replicate 48 98 ++ [0xC3, 0xA9]) 10 =
      List.replicate 63 97 ++ ascii " channel 10 on " ++ List.replicate 48 98 ++ [0xC3] ∧
    utf8Valid (List.replicate 63 97 ++ ascii " channel 10 on " ++ List.replicate 48 98 ++ [0xC3]) =
      false := by
  decide

/-! ### Two KISS ports on one channel -/

/-- Two KISS ports, 8001 and 8002, both on channel 0, no AGWPE port and no base name. -/
def sameChannelKiss : MiscConfig :=
  ⟨0, [8001, 8002], [0, 0], [], rfl⟩

/-- Both KISS slots are named `Dire Wolf channel 0 on host`, against the header comment's
"constructing a unique name for each service". -/
theorem dnsSdCreateContext_repeats_kiss_name :
    dnsSdCreateContext sameChannelKiss (some (ascii "host")) =
      some [.zero, ⟨8001, 0, some (ascii "Dire Wolf channel 0 on host")⟩,
        ⟨8002, 0, some (ascii "Dire Wolf channel 0 on host")⟩] := by
  decide

end DnsSd
