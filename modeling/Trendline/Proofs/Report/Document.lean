import Trendline.Proofs.Json.RoundTrip
import Trendline.Report.Export

/-!
# Reading an exported document

Every label, name, count and finite double can be read back from the document of fits and skipped
series, whatever characters the labels and the messages have.

* `wellFormed_exportJson`: the document is well-formed, so its text is read as itself.
* `isReport_exportJson`: what stands in it, by the names of the members.
* `read?_exportJson`: both together.
-/

namespace Trendline.Report

open Decimal

/-! ## What a document says -/

/-- A count: digits that denote it. -/
inductive IsCount : Json → Nat → Prop
  | digits {numeral : String} {n : Nat} : AllDigits numeral.toList →
      digitsValue numeral.toList = n → IsCount (.number numeral) n

/-- A double: a numeral that is read as it, or nothing if it is no number. -/
inductive IsDouble : Json → Float → Prop
  | finite {numeral : String} {x : Float} : x.isFinite = true →
      read? numeral.toList = some x → IsDouble (.number numeral) x
  | nonFinite {x : Float} : x.isFinite = false → IsDouble .null x

/-- The names of the members of an object. -/
def memberNames : Json → List String
  | .object members => members.map (·.1)
  | _ => []

/-- The member of a name is as it should be. -/
def HasMember (doc : Json) (name : String) (P : Json → Prop) : Prop :=
  ∃ value, doc.member? name = some value ∧ P value

/-- The items of a list, one for each. -/
def IsList {β : Type} (P : Json → β → Prop) (doc : Json) (l : List β) : Prop :=
  ∃ items, doc = .array items ∧ List.Forall₂ P items l

/-- The quality of a fit. -/
structure IsQuality (doc : Json) (q : Quality Float) : Prop where
  names : memberNames doc = ["sse", "rmse", "r_squared", "n"]
  sse : HasMember doc "sse" (IsDouble · q.sse)
  rmse : HasMember doc "rmse" (IsDouble · q.rmse)
  rSquared : HasMember doc "r_squared" (IsDouble · q.rSquared)
  n : HasMember doc "n" (IsCount · q.n)

/-- A fit and the name of its series. -/
structure IsFit (doc : Json) (r : FittedSeries Float) : Prop where
  names : memberNames doc = ["series", "space", "degree", "coefficients", "quality"]
  series : doc.member? "series" = some (.string r.label)
  space : ∃ name, doc.member? "space" = some (.string name) ∧ Space.ofName? name = some r.fit.space
  degree : HasMember doc "degree" (IsCount · r.fit.degree.toNat)
  coefficients : HasMember doc "coefficients" (IsList IsDouble · r.fit.coefficients)
  quality : HasMember doc "quality" (IsQuality · r.fit.quality)

/-- A skipped series and why it is skipped. -/
structure IsSkip (doc : Json) (s : SkippedSeries Float) : Prop where
  names : memberNames doc = ["series", "error"]
  series : doc.member? "series" = some (.string s.label)
  error : doc.member? "error" = some (.string s.error.message)

/-- Fits and skipped series, in their order. -/
structure IsReport (doc : Json) (rows : List (FittedSeries Float))
    (skipped : List (SkippedSeries Float)) : Prop where
  names : memberNames doc = ["fits", "skipped"]
  fits : HasMember doc "fits" (IsList IsFit · rows)
  skipped : HasMember doc "skipped" (IsList IsSkip · skipped)

/-! ## What is written -/

theorem isCount_ofNat (n : Nat) : IsCount (.ofNat n) n := by
  have hlist : (String.ofList (digitsOf n)).toList = digitsOf n := String.toList_ofList
  refine .digits ?_ ?_
  · exact hlist ▸ allDigits_digitsOf n
  · exact hlist ▸ digitsValue_digitsOf n

theorem isDouble_numberJson (x : Float) : IsDouble (numberJson x) x := by
  have hlist : (Style.document.write x).toList = Style.document.chars x := String.toList_ofList
  rw [numberJson]
  cases hx : x.isFinite with
  | false => exact .nonFinite hx
  | true => exact .finite hx (hlist ▸ read?_chars .document hx)

theorem isList_map {β : Type} {P : Json → β → Prop} {write : β → Json} (h : ∀ b, P (write b) b)
    (l : List β) : IsList P (.array (l.map write)) l :=
  ⟨l.map write, rfl, List.forall₂_map_left_iff.mpr (List.forall₂_same.mpr fun b _ => h b)⟩

theorem isQuality_qualityJson (q : Quality Float) : IsQuality (qualityJson q) q where
  names := rfl
  sse := ⟨_, rfl, isDouble_numberJson q.sse⟩
  rmse := ⟨_, rfl, isDouble_numberJson q.rmse⟩
  rSquared := ⟨_, rfl, isDouble_numberJson q.rSquared⟩
  n := ⟨_, rfl, isCount_ofNat q.n⟩

theorem ofName?_name (s : Space) : Space.ofName? s.name = some s := by
  cases s <;> decide

theorem isFit_fitJson (r : FittedSeries Float) : IsFit (fitJson r) r where
  names := rfl
  series := rfl
  space := ⟨r.fit.space.name, rfl, ofName?_name r.fit.space⟩
  degree := ⟨_, rfl, isCount_ofNat r.fit.degree.toNat⟩
  coefficients := ⟨_, rfl, isList_map isDouble_numberJson r.fit.coefficients⟩
  quality := ⟨_, rfl, isQuality_qualityJson r.fit.quality⟩

theorem isSkip_skippedJson (s : SkippedSeries Float) : IsSkip (skippedJson s) s where
  names := rfl
  series := rfl
  error := rfl

variable (rows : List (FittedSeries Float)) (skipped : List (SkippedSeries Float))

theorem isReport_exportJson : IsReport (exportJson rows skipped) rows skipped where
  names := rfl
  fits := ⟨_, rfl, isList_map isFit_fitJson rows⟩
  skipped := ⟨_, rfl, isList_map isSkip_skippedJson skipped⟩

/-! ## The text -/

theorem wellFormed_ofNat (n : Nat) : Json.WellFormed (.ofNat n) := by
  refine .number ?_
  rw [String.toList_ofList]
  exact Json.isNumeral_digitsOf n

theorem wellFormed_numberJson (x : Float) : Json.WellFormed (numberJson x) := by
  rw [numberJson]
  split
  · rename_i hx
    refine .number ?_
    rw [Style.write, String.toList_ofList]
    exact Json.isNumeral_chars .document hx
  · exact .null

theorem wellFormed_map {β : Type} {write : β → Json} (h : ∀ b, Json.WellFormed (write b))
    (l : List β) : Json.WellFormed (.array (l.map write)) :=
  .array (List.forall_mem_map.mpr fun b _ => h b)

theorem wellFormed_qualityJson (q : Quality Float) : Json.WellFormed (qualityJson q) := by
  refine .object ?_
  simp only [List.forall_mem_cons]
  exact ⟨wellFormed_numberJson q.sse, wellFormed_numberJson q.rmse,
    wellFormed_numberJson q.rSquared, wellFormed_ofNat q.n, List.forall_mem_nil _⟩

theorem wellFormed_fitJson (r : FittedSeries Float) : Json.WellFormed (fitJson r) := by
  refine .object ?_
  simp only [List.forall_mem_cons]
  exact ⟨.string _, .string _, wellFormed_ofNat _, wellFormed_map wellFormed_numberJson _,
    wellFormed_qualityJson _, List.forall_mem_nil _⟩

theorem wellFormed_skippedJson (s : SkippedSeries Float) : Json.WellFormed (skippedJson s) := by
  refine .object ?_
  simp only [List.forall_mem_cons]
  exact ⟨.string _, .string _, List.forall_mem_nil _⟩

theorem wellFormed_exportJson : Json.WellFormed (exportJson rows skipped) := by
  refine .object ?_
  simp only [List.forall_mem_cons]
  exact ⟨wellFormed_map wellFormed_fitJson rows, wellFormed_map wellFormed_skippedJson skipped,
    List.forall_mem_nil _⟩

/-- **Everything can be read back from an exported document**, whatever the labels and messages. -/
theorem read?_exportJson : ∃ doc, Json.read? (exportJson rows skipped).pretty = some doc ∧
    IsReport doc rows skipped :=
  ⟨_, (wellFormed_exportJson rows skipped).read?_pretty, isReport_exportJson rows skipped⟩

end Trendline.Report
