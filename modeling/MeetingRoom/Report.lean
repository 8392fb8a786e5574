/-
  MeetingRoom/Report.lean
  =======================
  **The final report of a meeting.**

  Every part of a report may be missing and is then empty.
-/
import MeetingRoom.Label

namespace MeetingRoom

open Json (Codec Value Fields)

/-- The synthesis that is published at the end of a meeting. -/
structure Report where
  symbol : String := ""
  title : String := ""
  thesis : String := ""
  bullCase : List String := []
  bearCase : List String := []
  risks : List String := []
  assumptions : List String := []
  valuationGap : Option String := none
  targetPrice : Option (Dictionary Value) := none
  conclusion : String := ""
  generatedAt : Option String := none

namespace Report

def fields : Fields :=
  .cons "symbol_key" .optional .text <|
  .cons "title" .optional .text <|
  .cons "thesis" .optional .text <|
  .cons "bull_case" .optional (.listOf .text) <|
  .cons "bear_case" .optional (.listOf .text) <|
  .cons "risks" .optional (.listOf .text) <|
  .cons "assumptions" .optional (.listOf .text) <|
  .cons "valuation_gap" .optional (.nullable .text) <|
  .cons "target_price" .optional (.nullable .dictionary) <|
  .cons "conclusion" .optional .text <|
  .cons "generated_at" .optional (.nullable .text) .nil

def codec : Codec Report where
  shape := .record "StructuredReport" fields
  ofData
    | (symbol, title, thesis, bullCase, bearCase, risks, assumptions, valuationGap, targetPrice,
        conclusion, generatedAt, ()) =>
      { symbol := symbol.getD ""
        title := title.getD ""
        thesis := thesis.getD ""
        bullCase := bullCase.getD []
        bearCase := bearCase.getD []
        risks := risks.getD []
        assumptions := assumptions.getD []
        valuationGap := valuationGap.join
        targetPrice := targetPrice.join
        conclusion := conclusion.getD ""
        generatedAt := generatedAt.join }
  toData r :=
    (some r.symbol, some r.title, some r.thesis, some r.bullCase, some r.bearCase, some r.risks,
      some r.assumptions, some r.valuationGap, some r.targetPrice, some r.conclusion,
      some r.generatedAt, ())
  ofData_toData r := by simp

end Report

end MeetingRoom
