import Mathlib.Data.List.Basic

/-!
# Common — Batch

`[dns_sd_common.h, dns_sd_dw.h]`.  The data both backends share: the fields of the Dire Wolf
configuration that DNS-SD reads, one slot of the service batch (`dns_sd_service_t`), the two
service types, and `dns_sd_service_count`.

A C string is its bytes up to (not including) the first NUL; a `char *` that may be NULL is an
`Option`.  `MAX_KISS_TCP_PORTS` is the length of the configuration's KISS arrays, so every
result below holds for every value of that constant.
-/

namespace DnsSd

/-- The bytes of a C string. -/
abbrev Bytes := List UInt8

/-- The bytes of an ASCII literal. -/
def ascii (s : String) : Bytes := s.toList.map fun c => c.toNat.toUInt8

/-- What C reads of a buffer as a string: the bytes before the first NUL. -/
def cstr (b : Bytes) : Bytes := b.takeWhile (· ≠ 0)

/-- The fields of `struct misc_config_s` that the DNS-SD code reads.  `kiss_port` and
`kiss_chan` are the two arrays of length `MAX_KISS_TCP_PORTS`. -/
structure MiscConfig where
  agwpePort : Int
  kissPort : List Int
  kissChan : List Int
  dnsSdName : Bytes
  kissChan_length : kissChan.length = kissPort.length

namespace MiscConfig

/-- `MAX_KISS_TCP_PORTS`. -/
def maxKissTcpPorts (mc : MiscConfig) : Nat := mc.kissPort.length

/-- `MAX_DNS_SD_SERVICES`: one slot for AGWPE, the rest for KISS. -/
def maxDnsSdServices (mc : MiscConfig) : Nat := 1 + mc.maxKissTcpPorts

end MiscConfig

/-- `dns_sd_service_t`.  `name = none` is a NULL pointer. -/
structure DnsSdService where
  port : Int
  channel : Int
  name : Option Bytes
  deriving DecidableEq, Repr

namespace DnsSdService

/-- A slot as `calloc` leaves it. -/
def zero : DnsSdService := ⟨0, 0, none⟩

/-- A slot is announced when its port is non-zero; the others are inert. -/
def Active (s : DnsSdService) : Prop := s.port ≠ 0

instance (s : DnsSdService) : Decidable s.Active := inferInstanceAs (Decidable (s.port ≠ 0))

@[simp] theorem zero_port : zero.port = 0 := rfl
@[simp] theorem zero_channel : zero.channel = 0 := rfl
@[simp] theorem zero_name : zero.name = none := rfl
@[simp] theorem not_active_zero : ¬ zero.Active := fun h => h rfl

/-- The slot after `n` renames by `alt` (a NULL name stays NULL). -/
def rename (alt : Bytes → Bytes) (n : Nat) (svc : DnsSdService) : DnsSdService :=
  { svc with name := (Option.map alt)^[n] svc.name }

end DnsSdService

/-- The array of `MAX_DNS_SD_SERVICES` slots that `dns_sd_create_context` returns. -/
abbrev Batch := List DnsSdService

/-- `DNS_SD_TYPE_AGWPE`. -/
def dnsSdTypeAgwpe : Bytes := ascii "_agwpe._tcp"

/-- `DNS_SD_TYPE_KISS`. -/
def dnsSdTypeKiss : Bytes := ascii "_kiss-tnc._tcp"

/-- The type both backends announce slot `i` under: `i == 0 ? DNS_SD_TYPE_AGWPE :
DNS_SD_TYPE_KISS`. -/
def serviceType (i : Nat) : Bytes := if i = 0 then dnsSdTypeAgwpe else dnsSdTypeKiss

/-- `dns_sd_service_count`: the non-zero ports among AGWPE and the KISS ports. -/
def dnsSdServiceCount (mc : MiscConfig) : Nat :=
  (if mc.agwpePort ≠ 0 then 1 else 0) + mc.kissPort.countP (· ≠ 0)

/-- The conversion of an `int` port to the `uint16_t` the daemon APIs take. -/
def toUInt16 (p : Int) : UInt16 := UInt16.ofNat (p % 65536).toNat

end DnsSd
