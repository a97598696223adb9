import CheetahDex.Lib.HashMap
import Mathlib.Algebra.Order.Ring.Rat

/-!
# Order records

Amounts and prices are exact rationals (`MmNumber`, `BigRational`), public keys and tickers are
strings, and an order is named by a 128-bit uuid.
-/

namespace CheetahDex.Ordermatch

open Lib

/-- `MmNumber` and `BigRational`. -/
abbrev MmNumber := ℚ

abbrev Uuid := BitVec 128

/-- One of the orders in which a map of uuids may be iterated. -/
def sortedUuids : Iteration Uuid := .sortedBy BitVec.toNat fun _ _ => BitVec.eq_of_toNat_eq

/-- `AlbOrderedOrderbookPair`: two tickers joined by a colon, the smaller one first. -/
abbrev AlbOrderedOrderbookPair := String

structure OrderConfirmationsSettings where
  baseConfs : Nat
  baseNota : Bool
  relConfs : Nat
  relNota : Bool
  deriving DecidableEq

def OrderConfirmationsSettings.reversed (s : OrderConfirmationsSettings) :
    OrderConfirmationsSettings :=
  { baseConfs := s.relConfs, baseNota := s.relNota, relConfs := s.baseConfs, relNota := s.baseNota }

structure BaseRelProtocolInfo where
  base : List UInt8 := []
  rel : List UInt8 := []

/-- `OrderbookP2PItem`: the part of an order that is sent and that the trie commits to. -/
structure OrderbookP2PItem where
  pubkey : String
  base : String
  rel : String
  price : MmNumber
  maxVolume : MmNumber
  minVolume : MmNumber
  uuid : Uuid
  createdAt : Nat
  deriving DecidableEq

structure OrderbookItem where
  pubkey : String
  base : String
  rel : String
  price : MmNumber
  maxVolume : MmNumber
  minVolume : MmNumber
  uuid : Uuid
  createdAt : Nat
  baseProtocolInfo : List UInt8
  relProtocolInfo : List UInt8
  confSettings : Option OrderConfirmationsSettings
  deriving DecidableEq

namespace OrderbookItem

/-- `From<OrderbookItem> for OrderbookP2PItem`. -/
def toP2P (o : OrderbookItem) : OrderbookP2PItem :=
  { pubkey := o.pubkey, base := o.base, rel := o.rel, price := o.price, maxVolume := o.maxVolume,
    minVolume := o.minVolume, uuid := o.uuid, createdAt := o.createdAt }

def fromP2PAndInfo (o : OrderbookP2PItem) (info : BaseRelProtocolInfo)
    (confSettings : Option OrderConfirmationsSettings) : OrderbookItem :=
  { pubkey := o.pubkey, base := o.base, rel := o.rel, price := o.price, maxVolume := o.maxVolume,
    minVolume := o.minVolume, uuid := o.uuid, createdAt := o.createdAt,
    baseProtocolInfo := info.base, relProtocolInfo := info.rel, confSettings }

/-- The pair of tickers that the indices use as a key. -/
def baseRel (o : OrderbookItem) : String × String := (o.base, o.rel)

end OrderbookItem

def albOrderedPair (base rel : String) : AlbOrderedOrderbookPair :=
  if base < rel then base ++ ":" ++ rel else rel ++ ":" ++ base

structure PubkeyKeepAlive (H : Type) where
  trieRoots : HashMap AlbOrderedOrderbookPair H
  timestamp : Nat
  deriving DecidableEq

/-- `str::split_once(':')` on characters: what stands before and after the first colon. -/
def splitOnceChars : List Char → Option (List Char × List Char)
  | [] => none
  | c :: cs =>
    if c = ':' then some ([], cs)
    else (splitOnceChars cs).map fun (a, b) => (c :: a, b)

/-- `str::split_once(':')`. -/
def splitOnce (s : String) : Option (String × String) :=
  (splitOnceChars s.toList).map fun (a, b) => (String.ofList a, String.ofList b)

example : splitOnce (albOrderedPair "KMD" "BTC") = some ("BTC", "KMD") := by decide

end CheetahDex.Ordermatch
