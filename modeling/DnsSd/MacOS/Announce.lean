import DnsSd.Common.Context

/-!
# MacOS — Announce

`[dns_sd_macos.c]`.  `dns_sd_announce` on macOS up to the thread it starts: the batch, one
`DNSServiceRegister` per active slot whatever the earlier calls returned, and the service
references it keeps (`sd_ref[i]`, only for a call that returned `kDNSServiceErr_NoError`).  The
daemon's answer for slot `i` is `err i`.

`DNSServiceRegister` takes its port in network byte order; `registerLoop_announced` says the
services the registrations announce are the requests `slotEntries` lists.
-/

namespace DnsSd.MacOS

/-- `kDNSServiceErr_NoError`. -/
def kDNSServiceErrNoError : Int := 0

/-- `htons` on the little-endian hosts macOS runs on: the two bytes of the port swapped. -/
def htons (x : UInt16) : UInt16 := UInt16.ofNat (x.toNat % 256 * 256 + x.toNat / 256)

/-- `ntohs`: the same swap. -/
def ntohs (x : UInt16) : UInt16 := htons x

theorem ntohs_htons (x : UInt16) : ntohs (htons x) = x := by
  have hx : x.toNat < 65536 := x.toNat_lt_size
  have h₁ : x.toNat % 256 * 256 + x.toNat / 256 < UInt16.size := show _ < 65536 by omega
  apply UInt16.toNat.inj
  simp only [ntohs, htons, UInt16.toNat_ofNat_of_lt h₁]
  rw [UInt16.toNat_ofNat_of_lt (show _ < 65536 by omega)]
  omega

/-- One `DNSServiceRegister` call: the name, `regtype`, and the port in network byte order. -/
structure Registration where
  name : Option Bytes
  regType : Bytes
  port : UInt16
  deriving DecidableEq, Repr

/-- The service a registration announces, its port back in host byte order. -/
def Registration.announced (reg : Registration) : Request :=
  ⟨reg.name, reg.regType, ntohs reg.port⟩

/-- The registration loop of `dns_sd_announce` from slot `i`: the calls it makes, and for each
slot whether `sd_ref[i]` holds a reference. -/
def registerLoop (err : Nat → Int) : Nat → Batch → List Registration × List Bool
  | _, [] => ([], [])
  | i, svc :: rest =>
    let next := registerLoop err (i + 1) rest
    if svc.port = 0 then (next.1, false :: next.2)
    else (⟨svc.name, serviceType i, htons (toUInt16 svc.port)⟩ :: next.1,
      decide (err i = kDNSServiceErrNoError) :: next.2)

/-- `dns_sd_announce` up to `pthread_create`: `none` when no service is configured and it
returns at once; otherwise the batch, the registrations and the references kept. -/
def dnsSdAnnounce (mc : MiscConfig) (g : Option Bytes) (err : Nat → Int) :
    Option (Batch × List Registration × List Bool) :=
  if dnsSdServiceCount mc = 0 then none
  else (dnsSdCreateContext mc g).map fun ctx => (ctx, registerLoop err 0 ctx)

/-- The registrations announce one service per active slot, in slot order, under the slot's
name, type and port. -/
theorem registerLoop_announced (err : Nat → Int) :
    ∀ (i : Nat) (ctx : Batch),
      (registerLoop err i ctx).1.map Registration.announced = slotEntries i ctx
  | _, [] => rfl
  | i, svc :: rest => by
    by_cases hp : svc.port = 0 <;>
      simp [registerLoop, slotEntries, hp, registerLoop_announced err (i + 1) rest,
        Registration.announced, request, ntohs_htons]

end DnsSd.MacOS
