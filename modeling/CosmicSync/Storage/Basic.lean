import CosmicSync.Library.Table
import CosmicSync.Utils.Crypto

/-!
# The storage and what it is run with

A storage call returns a value or a `StorageError`. The calls depend on the
configuration, on the cryptographic primitives, on the order in which the
database hands out rows, and on how the database driver converts a column to the
type that the code asks for: together, an `Env`.

The driver is where the code and the schema meet. The columns `file_path` and
`filename` are binary and some calls read them as text, and the column `size` is
signed and is read as unsigned. A `Driver` may refuse such a conversion; when it
makes one, the value is that of the column.
-/

namespace CosmicSync

/-- `StorageError`, the errors the calls below return. -/
inductive StorageError where
  | database (msg : String)
  | notFound (msg : String)
  | general (msg : String)
  | permissionDenied (msg : String)
  | validation (msg : String)
  deriving DecidableEq, Repr

/-- The text of an error. -/
def StorageError.display : StorageError → String
  | database msg => "Database error: " ++ msg
  | notFound msg => "Not found: " ++ msg
  | general msg => "General error: " ++ msg
  | permissionDenied msg => "Permission denied: " ++ msg
  | validation msg => "Validation error: " ++ msg

/-- How the database driver converts columns. -/
structure Driver where
  /-- A binary column, read as text. -/
  text : ByteArray → Option String
  text_sound : ∀ b s, text b = some s → b = s.toByteArray
  /-- A signed column, read as an unsigned number. -/
  unsigned : ℤ → Option ℕ
  unsigned_sound : ∀ i n, unsigned i = some n → i = n
  /-- The texts of the errors: a refused conversion, a value out of the range of
      its column. -/
  decodeError : String
  rangeError : String

/-- The driver that converts what can be converted, and nothing else. -/
def Driver.lenient : Driver where
  text := String.fromUTF8?
  text_sound _ _ := eq_toByteArray_of_fromUTF8?
  unsigned
    | .ofNat n => some n
    | .negSucc _ => none
  unsigned_sound
    | .ofNat _, _, h => congrArg Int.ofNat (Option.some.inj h)
  decodeError := "mismatched types"
  rangeError := "Out of range value for column"

/-- The settings that the file storage and the file handlers read. -/
structure Config where
  serverEncodeKey : Option ByteArray
  transportEncryptMetadata : Bool

/-- The key that encrypts paths and names: a configured key of another length than
    32 bytes counts as none. -/
def Config.encodeKey (cfg : Config) : Option Key32 :=
  match cfg.serverEncodeKey with
  | some kv => if h : kv.size = 32 then some ⟨kv, h⟩ else none
  | none => none

/-- What the storage runs with. -/
structure Env where
  crypto : Crypto
  planner : Table.Planner
  driver : Driver
  config : Config

/-- An environment without a server key, for the examples. -/
def Env.plain : Env where
  crypto := .sample
  planner := .insertion
  driver := .lenient
  config := ⟨none, false⟩

/-- `n as i64`, for an unsigned `n`. -/
def asI64 (n : ℕ) : ℤ := Int.bmod n (2 ^ 64)

theorem asI64_of_lt {n : ℕ} (h : n < 2 ^ 63) : asI64 n = n :=
  Int.bmod_eq_of_le (by omega) (by omega)

theorem bmod_neg {n m : ℕ} (h : m ≤ n) (hlt : n < 2 * m) : Int.bmod n (2 * m) < 0 := by
  have hmod : (n : ℤ) % ((2 * m : ℕ) : ℤ) = n := Int.emod_eq_of_lt (by omega) (by omega)
  rw [Int.bmod_def, hmod, if_neg (by omega)]
  omega

theorem asI64_neg {n : ℕ} (h : 2 ^ 63 ≤ n) (hlt : n < 2 ^ 64) : asI64 n < 0 := by
  have hneg : ∀ m : ℕ, m = 2 * 2 ^ 63 → n < m → Int.bmod n m < 0 := by
    rintro _ rfl hlt
    exact bmod_neg h hlt
  exact hneg (2 ^ 64) (by norm_num) hlt

/-- A sequence of calls succeeds when each of them does. -/
theorem bind_eq_ok {ε α β : Type} {x : Except ε α} {f : α → Except ε β} {b : β}
    (h : (x >>= f) = .ok b) : ∃ a, x = .ok a ∧ f a = .ok b := by
  rcases x with e | a
  · cases h
  · exact ⟨a, rfl, h⟩

theorem map_eq_ok {ε α β : Type} {x : Except ε α} {f : α → β} {b : β} (h : x.map f = .ok b) :
    ∃ a, x = .ok a ∧ f a = b := by
  rcases x with e | a
  · cases h
  · exact ⟨a, rfl, Except.ok.inj h⟩

/-- A transaction that fails is rolled back. -/
def committed {σ α ε : Type*} (s : σ) : Except ε (α × σ) → σ
  | .ok (_, s') => s'
  | .error _ => s

/-- What holds before, and after every success, holds after the transaction. -/
theorem committed_of {σ α ε : Type*} {P : σ → Prop} {s : σ} {res : Except ε (α × σ)} (hs : P s)
    (hok : ∀ a s', res = .ok (a, s') → P s') : P (committed s res) := by
  rcases res with e | ⟨a, s'⟩
  · exact hs
  · exact hok a s' rfl

end CosmicSync
