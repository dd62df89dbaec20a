/-! Where a server listens, and which database a link is bound to. -/

set_option autoImplicit false

namespace VectorLink

structure Address where
  host : String
  port : UInt16
  deriving DecidableEq, Repr

namespace Address

def standard : Address := ⟨"127.0.0.1", 8080⟩

instance : Inhabited Address := ⟨standard⟩

def text (address : Address) : String := address.host ++ ":" ++ toString address.port.toNat

instance : ToString Address := ⟨text⟩

end Address

/-- The database a link works on and the number of components of its vectors. Only an acknowledged
select replaces it. -/
structure Selection where
  database : String
  dimension : UInt32
  deriving DecidableEq, Repr

end VectorLink
