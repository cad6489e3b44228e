import SoundLedger.Position
import SoundLedger.Proofs.Decimal.Plain

/-!
# Positions as they are written

Which pairs of texts are a position, and what the position keeps of them. A text in the plain form
that is out of range is refused by name, the latitude first. Every other one is accepted, and it is
kept as it is written exactly if all of its digits fit.
-/

namespace SoundLedger.Position

open Decimal (PlainText)

/-- A coordinate in the plain form is read exactly if it is in range. -/
theorem parseCoordinate_text (t : PlainText) :
    (t.InRange ∧ ∃ x, parseCoordinate t.text = .ok x ∧ t.KeptIn x) ∨
      (¬ t.InRange ∧ parseCoordinate t.text = .error (.invalidCoordinate t.text)) := by
  have hread : Decimal.ofChars? (Text.trim t.text.toList) = Decimal.ofPlain? t.body := by
    rw [t.trim_text, t.ofChars?_body]
  rcases t.ofPlain?_body with ⟨hin, x, hx, hkept⟩ | ⟨hout, hnone⟩
  · exact .inl ⟨hin, x, by rw [parseCoordinate, hread, hx], hkept⟩
  · exact .inr ⟨hout, by rw [parseCoordinate, hread, hnone]⟩

/-- **A position is read from every pair of plain texts in range, but it does not always keep them.**
A text out of range is refused by name. A text in range becomes a coordinate with the value and the
decimals that are written if its digits fit a decimal, and with others if they do not: it is then
rounded, not refused. -/
theorem parse_plain (latitude longitude : PlainText) :
    (latitude.InRange → longitude.InRange →
      ∃ p, parse latitude.text longitude.text = .ok p ∧
        latitude.KeptIn p.latitude ∧ longitude.KeptIn p.longitude) ∧
    (¬ latitude.InRange →
      parse latitude.text longitude.text = .error (.invalidCoordinate latitude.text)) ∧
    (latitude.InRange → ¬ longitude.InRange →
      parse latitude.text longitude.text = .error (.invalidCoordinate longitude.text)) := by
  rcases parseCoordinate_text latitude with ⟨hlatitude, x, hx, hkeptX⟩ | ⟨hlatitude, hfail⟩
  · refine ⟨fun _ hlongitude => ?_, fun hout => absurd hlatitude hout, fun _ hlongitude => ?_⟩
    · rcases parseCoordinate_text longitude with ⟨-, y, hy, hkeptY⟩ | ⟨hout, -⟩
      · refine ⟨⟨x, y⟩, ?_, hkeptX, hkeptY⟩
        rw [parse, hx, hy]
        rfl
      · exact absurd hlongitude hout
    · rcases parseCoordinate_text longitude with ⟨hin, -⟩ | ⟨-, hfail⟩
      · exact absurd hin hlongitude
      · rw [parse, hx, hfail]
        rfl
  · refine ⟨fun hin => absurd hin hlatitude, fun _ => ?_, fun hin => absurd hin hlatitude⟩
    rw [parse, hfail]
    rfl

/-- The text ` +038.700`, with more than is kept of it. -/
def loose : PlainText where
  front := [' ']
  sign := ['+']
  whole := [0, 3, 8]
  fraction := some [7, 0, 0]
  back := []
  front_blank := List.forall_mem_singleton.mpr (by decide)
  back_blank := List.forall_mem_nil _
  sign_mem := by decide
  hasDigit := by decide

/-- Half a unit of the last decimal that fits, a number with 29 decimals. -/
def halfUnit : PlainText where
  front := []
  sign := []
  whole := [0]
  fraction := some (List.replicate 28 0 ++ [5])
  back := []
  front_blank := List.forall_mem_nil _
  back_blank := List.forall_mem_nil _
  sign_mem := by decide
  hasDigit := by decide

/-- One more than the greatest coefficient. -/
def tooGreat : PlainText where
  front := []
  sign := ['-']
  whole := [7, 9, 2, 2, 8, 1, 6, 2, 5, 1, 4, 2, 6, 4, 3, 3, 7, 5, 9, 3, 5, 4, 3, 9, 5, 0, 3, 3, 6]
  fraction := none
  back := []
  front_blank := List.forall_mem_nil _
  back_blank := List.forall_mem_nil _
  sign_mem := by decide
  hasDigit := by decide

/-- Half a unit is accepted and altered, the loose text is kept and printed without what is loose,
and what is too great is refused. -/
theorem parse_plain_halfUnit_loose_tooGreat :
    (halfUnit.text = "0.00000000000000000000000000005" ∧ loose.text = " +038.700" ∧
      ∃ p, parse halfUnit.text loose.text = .ok p ∧
        ¬ (p.latitude.value = halfUnit.value ∧ p.latitude.scale = 29) ∧
        p.longitude.value = loose.value ∧ p.longitude.scale = 3 ∧
        p.longitude.toText = "38.700") ∧
    tooGreat.text = "-79228162514264337593543950336" ∧
    parse tooGreat.text loose.text = .error (.invalidCoordinate tooGreat.text) ∧
    parse loose.text tooGreat.text = .error (.invalidCoordinate tooGreat.text) := by
  have hhalf : halfUnit.InRange ∧ ¬ halfUnit.Fits := by decide +kernel
  have hloose : loose.Fits := by decide
  have hgreat : ¬ tooGreat.InRange := by decide +kernel
  have htexts : halfUnit.text = "0.00000000000000000000000000005" ∧ loose.text = " +038.700" ∧
      tooGreat.text = "-79228162514264337593543950336" ∧
      String.ofList loose.printed = "38.700" := by
    decide +kernel
  obtain ⟨hhalfText, hlooseText, hgreatText, hprinted⟩ := htexts
  obtain ⟨hread, -, -⟩ := parse_plain halfUnit loose
  obtain ⟨p, hp, hlatitude, hlongitude⟩ := hread hhalf.1 hloose.inRange
  obtain ⟨hvalue, hscale⟩ := hlongitude.exact_iff.mpr hloose
  refine ⟨⟨hhalfText, hlooseText, p, hp, ?_, hvalue, hscale, ?_⟩, hgreatText, ?_, ?_⟩
  · exact fun hkept => hhalf.2 (hlatitude.exact_iff.mp hkept)
  · rw [hlongitude.toText_eq hloose, hprinted]
  · exact (parse_plain tooGreat loose).2.1 hgreat
  · exact (parse_plain loose tooGreat).2.2 hloose.inRange hgreat

end SoundLedger.Position
