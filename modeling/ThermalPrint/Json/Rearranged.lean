import Mathlib.Data.List.Forall2
import ThermalPrint.Json.Source

/-! Objects whose members come in another order, and without or with members that say nothing. -/

namespace ThermalPrint.Json

/-- Members in any order, without some and with other members that have the name of no field, whose values
`R` relates by the names of their members. The blanks may differ. -/
inductive Rearranged (fields : List String) (R : String → Source → Source → Prop) : Members → Members → Prop
  | nil : Rearranged fields R [] []
  | cons {key key' v v' ms ms'} (hkey : key.item = key'.item)
      (hv : ∀ name, key.item.Writes name → R name v.item v'.item) (h : Rearranged fields R ms ms') :
      Rearranged fields R ((key, v) :: ms) ((key', v') :: ms')
  | swap (m n ms) : Rearranged fields R (m :: n :: ms) (n :: m :: ms)
  | drop {key name} (hname : key.item.Writes name) (hfield : name ∉ fields) (v ms) :
      Rearranged fields R ((key, v) :: ms) ms
  | insert {key name} (hname : key.item.Writes name) (hfield : name ∉ fields) (v ms) :
      Rearranged fields R ms ((key, v) :: ms)
  | trans {ms ms' ms''} (h : Rearranged fields R ms ms') (h' : Rearranged fields R ms' ms'') :
      Rearranged fields R ms ms''

/-- The same value, or an object with its members rearranged. -/
inductive Source.Rearranged (fields : List String) (R : String → Source → Source → Prop) :
    Source → Source → Prop
  | same (s) : Source.Rearranged fields R s s
  | object {ms ms'} (h : Json.Rearranged fields R ms ms') (close close') :
    Source.Rearranged fields R (.object ms close) (.object ms' close')

/-- The same value, or an array with an element that `R` relates in the place of every element. -/
inductive Source.Elementwise (R : Source → Source → Prop) : Source → Source → Prop
  | same (s) : Source.Elementwise R s s
  | array {es es'} (h : List.Forall₂ (fun e e' => R e.item e'.item) es es') (close close') :
    Source.Elementwise R (.array es close) (.array es' close')

end ThermalPrint.Json
