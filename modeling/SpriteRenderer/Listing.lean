import SpriteRenderer.Binary32

/-!
# Listings

A listing is a value laid out for reading: numbers, words, lists and records
with named fields. Calls are compared and kept in this form.
-/

namespace SpriteRenderer

inductive Listing where
  | nothing
  | flag (value : Bool)
  | number (value : Int)
  | text (value : String)
  | list (items : List Listing)
  | record (fields : List (String × Listing))

namespace Listing

variable {α : Type}

def ofNat (n : Nat) : Listing := .number n

def each (f : α → Listing) (items : List α) : Listing := .list (items.map f)

def numbers (ns : List Nat) : Listing := each ofNat ns

def texts (ts : List String) : Listing := each text ts

def option (f : α → Listing) : Option α → Listing
  | none => .nothing
  | some a => f a

/-- A call: its name and then its arguments. -/
def call (name : String) (arguments : List Listing) : Listing := .list (.text name :: arguments)

/-- Bytes as pairs of hexadecimal digits. -/
def hex (bytes : List UInt8) : Listing :=
  .text (bytes.foldl
    (fun s b => (s.push (Nat.digitChar (b.toNat / 16))).push (Nat.digitChar (b.toNat % 16))) "")

/-- A single-precision number by its bits. -/
def bits (x : Binary32) : Listing := ofNat x.bits.toNat

/-- A single-precision number by its bits, where one NaN is like another. -/
def computed (x : Binary32) : Listing := if x.isNaN then .text "nan" else bits x

/-- A double-precision number as sixteen hexadecimal digits of its bits,
where one NaN is like another. -/
def wide (bits : UInt64) : Listing :=
  if bits &&& 0x7fffffffffffffff > 0x7ff0000000000000 then .text "nan"
  else hex ((List.range 8).reverse.map fun i => (bits >>> (8 * UInt64.ofNat i)).toUInt8)

end Listing

end SpriteRenderer
