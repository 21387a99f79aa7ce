/-
Fingerprints of rendered statements.

The fingerprint of a statement with parameters is the BLAKE2b hash, in eight bytes, of
the UTF-8 form of its rendered text.  Statements that render to the same text have the
same fingerprint.
-/
import PooledQuery.Fingerprint.Blake2b
import PooledQuery.Statement.Template

namespace PooledQuery

namespace Fingerprint

/-- Two hexadecimal digits for every byte. -/
def hexText (bytes : List UInt8) : Text :=
  bytes.flatMap fun byte => Text.paddedHex 2 byte.toNat

def ofText (text : Text) : Except Failure Text :=
  match Text.utf8 text with
  | .ok bytes => .ok (hexText (Blake2b.digest 8 bytes))
  | .error run => .error (.unencodable run)

def ofStatement (dialect : Option Dialect) (sql : Text) (params : List Value) :
    Except Failure Text := do
  ofText (← Template.render dialect sql params)

end Fingerprint
end PooledQuery
