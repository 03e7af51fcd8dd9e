import DocMapper.ByteSize
/-!
When a write index has had enough. Each limit counts from the value it names on, and one that
is reached is enough.
-/

namespace DocMapper

structure IndexStats where
  age : Duration
  docs : Nat
  bytes : Nat
deriving DecidableEq, Repr

inductive RolloverReason where
  | maxAge (age : Duration)
  | maxDocs (docs : Nat)
  | maxSize (size : ByteSize)
deriving DecidableEq, Repr

def RolloverReason.format : RolloverReason → String
  | .maxAge age => s!"max_age={age.format}"
  | .maxDocs docs => s!"max_docs={docs}"
  | .maxSize size => s!"max_size={size.format}"

structure RolloverConditions where
  maxAge : Option Duration
  maxDocs : Option Nat
  maxSize : Option ByteSize
deriving DecidableEq, Repr

namespace RolloverConditions

def isEmpty (c : RolloverConditions) : Bool :=
  c.maxAge.isNone && c.maxDocs.isNone && c.maxSize.isNone

def metBy (c : RolloverConditions) (stats : IndexStats) : List RolloverReason :=
  ((c.maxAge.filter fun age => age.nanos ≤ stats.age.nanos).map RolloverReason.maxAge).toList ++
    ((c.maxDocs.filter fun docs => docs ≤ stats.docs).map RolloverReason.maxDocs).toList ++
    ((c.maxSize.filter fun size => size.bytes ≤ stats.bytes).map RolloverReason.maxSize).toList

end RolloverConditions

end DocMapper
