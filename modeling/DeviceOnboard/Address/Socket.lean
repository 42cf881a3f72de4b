import DeviceOnboard.Address.Ip

/-!
# Socket addresses

An IP address with a port. An IPv6 address stands in brackets and may have a numbered zone.
-/
namespace DeviceOnboard

structure SocketAddress where
  ip : Ip
  zone : Nat
  port : UInt16
  deriving DecidableEq, Repr

namespace SocketAddress

/-- The value of at least one decimal digit, if it is below a bound. -/
def number? (bound : Nat) (cs : List Char) : Option Nat :=
  if cs = [] then none
  else (Ip.number? 10 Ip.decimalDigit? 0 cs).filter fun n => decide (n < bound)

def port? (cs : List Char) : Option UInt16 := (number? (Nat.pow 2 16) cs).map Nat.toUInt16

/-- An IPv6 address with its zone. -/
def host? (cs : List Char) : Option (Ip × Nat) :=
  match Text.pieces '%' cs with
  | [ip] => (Ip.v6? ip).map fun ip => (ip, 0)
  | [ip, zone] => do return (← Ip.v6? ip, ← number? (Nat.pow 2 32) zone)
  | _ => none

def ofChars? : List Char → Option SocketAddress
  | '[' :: cs =>
    match cs.dropWhile (· ≠ ']') with
    | ']' :: ':' :: port => do
      let (ip, zone) ← host? (cs.takeWhile (· ≠ ']'))
      return ⟨ip, zone, ← port? port⟩
    | _ => none
  | cs =>
    match Text.pieces ':' cs with
    | [ip, port] => do return ⟨← Ip.v4? ip, 0, ← port? port⟩
    | _ => none

def ofText? (s : String) : Option SocketAddress := ofChars? s.toList

end SocketAddress

end DeviceOnboard
