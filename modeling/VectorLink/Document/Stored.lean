import VectorLink.Address
import VectorLink.Document.Basic
import VectorLink.Document.Record
import VectorLink.Link.Phase

/-! The documents of addresses, selections and phases. -/

set_option autoImplicit false

namespace VectorLink

namespace Address

def document (address : Address) : Document :=
  .record [("host", .text address.host), ("port", .natural address.port.toNat)]

def slots : List Document.Slot := [.empty "host" .text, .empty "port" (.natural UInt16.size)]

def build : List (Option Document.Scalar) → Option Address
  | [some (.text host), some (.natural port)] => some ⟨host, UInt16.ofNat port⟩
  | _ => none

def read (text : String) : Except Document.Problem Address :=
  Document.parse (Document.readRecord slots build) text

end Address

namespace Selection

def document (selection : Selection) : Document :=
  .record [("database", .text selection.database),
    ("dimension", .natural selection.dimension.toNat)]

def slots : List Document.Slot := [.empty "database" .text, .empty "dimension" (.natural UInt32.size)]

def build : List (Option Document.Scalar) → Option Selection
  | [some (.text database), some (.natural dimension)] =>
    some ⟨database, UInt32.ofNat dimension⟩
  | _ => none

def read (text : String) : Except Document.Problem Selection :=
  Document.parse (Document.readRecord slots build) text

end Selection

namespace Phase

def document (phase : Phase) : Document := .text phase.key

def read (text : String) : Except Document.Problem Phase :=
  Document.parse (Document.readChoice ofKey?) text

end Phase

end VectorLink
