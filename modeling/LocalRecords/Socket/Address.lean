import LocalRecords.Failure

namespace LocalRecords

structure Address where
  /-- The name field, whose characters have a sign. It is zero where nothing was written. -/
  field : List Int8
  /-- The length of the address that is passed on, the family included. -/
  length : Nat
  deriving DecidableEq, Repr

namespace Address

def size : Nat := 110

def overhead : Nat := 2

def nameSize : Nat := size - overhead

/-- The longest path: one byte of the field stays zero. -/
def longest : Nat := nameSize - 1

def fill : List Int8 → Bytes → List Int8
  | _ :: cs, b :: bs => b.toInt8 :: fill cs bs
  | cs, _ => cs

def path (a : Address) : Bytes := (a.field.take (a.length - overhead)).map Int8.toUInt8

def describe (a : Address) : String :=
  "SocketAddress \x7b path: " ++ Text.quote a.path ++ s!", encoded_len: {a.length}" ++ " \x7d"

structure Resolution where
  address : Address
  path : Bytes
  deriving DecidableEq, Repr

def resolve (path : Bytes) : Except Failure Resolution :=
  if path.length > longest then .error (.longPath path.length longest)
  else if path.isEmpty then .error (.badPath .empty)
  else if path.contains 0 then .error (.badPath (.containsNul path))
  else
    .ok
      { address :=
          { field := fill (List.replicate nameSize 0) path
            length := overhead + path.length }
        path }

def ofPath (path : Bytes) : Except Failure Address := (resolve path).map Resolution.address

end Address

end LocalRecords
