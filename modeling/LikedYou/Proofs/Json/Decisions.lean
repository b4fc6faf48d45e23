import LikedYou.Decision
import LikedYou.Proofs.Json.Lossless
import LikedYou.Proofs.Time.Rfc3339

/-!
# Decisions come back

* `survives_time` — a document of an ordinary point in time reads as what was written
* `Decision.decodeString_encodeString` — the text of a decision reads as that decision
* `Decision.comesBack` — what the text of a decision says about the time, for every decision

A timestamp has no character that a document would escape, so its text stands in the document as it
is.
-/

namespace LikedYou

open Time

namespace Json

theorem flatMap_writeChar {cs : List Char} (h : ∀ c ∈ cs, writeChar c = [c]) :
    cs.flatMap writeChar = cs := by
  induction cs with
  | nil => rfl
  | cons c cs ih =>
    rw [List.flatMap_cons, h c List.mem_cons_self,
      ih fun c' hc' => h c' (List.mem_cons_of_mem c hc')]
    rfl

/-- The document of a timestamp is that of its text. -/
theorem write_time {t : Timestamp} (h : Rfc3339.Ordinary t) :
    Shape.write .time t = writeText (String.ofList (Rfc3339.write t)) := by
  have hplain : ∀ c ∈ Rfc3339.write t, writeChar c = [c] := by
    intro c hc
    rcases Rfc3339.isDigit_or_mem_marks (Rfc3339.shows_write h) hc with hdigit | hmark
    · exact Decimal.forall_isDigit (p := fun c => writeChar c = [c]) (by decide) hdigit
    · have hmarks : Rfc3339.marks.all (fun m => writeChar m = [m]) = true := by decide
      exact of_decide_eq_true (List.all_eq_true.mp hmarks c hmark)
  rw [writeText, String.toList_ofList, flatMap_writeChar hplain]
  rfl

/-- **A document of an ordinary point in time reads as what was written.** -/
theorem survives_time {t : Timestamp} (h : Rfc3339.Ordinary t) : Shape.Survives .time t := by
  show Reader.time.ReadsValue (Utf8.encode (Shape.write .time t)) t
  rw [write_time h, encode_writeText]
  refine ⟨fun rest _ => ?_, _, _, rfl, by decide, by decide⟩
  rw [Reader.time, Reader.run_ofStart, List.cons_append, readStart_cons (by decide), readTime,
    readTextOr, if_pos rfl, readText_textTail]
  simp only [String.toList_ofList, Rfc3339.read_write h]

end Json

namespace Decision

variable {d : Decision}

theorem faithful (h : Rfc3339.Ordinary d.createdAt) :
    (Json.Document.shape Decision).Faithful (Json.Document.toData d) :=
  ⟨by decide, trivial, by decide, trivial, by decide, trivial, by decide, Json.survives_time h,
    trivial⟩

/-- **The text of a decision reads as that decision.** -/
theorem decodeString_encodeString (h : Rfc3339.Ordinary d.createdAt) :
    Json.decodeString (Json.encodeString d) = .ok d := by
  have hdecode := Json.decode_encode (faithful h)
  rw [Json.decodeString]
  simp only [Json.ofString_encodeString, hdecode]

/-- The document of a decision that shows a given time. -/
def document (d : Decision) (shown : List Char) : List Char :=
  '\x7b' :: Json.commaSeparated
    [Json.writeField "actor_user_id" (Json.writeText d.actor),
      Json.writeField "recipient_user_id" (Json.writeText d.recipient),
      Json.writeField "liked_recipient" (Json.writeFlag d.liked),
      Json.writeField "created_at" ('"' :: shown ++ ['"'])] ++ ['\x7d']

/-- **Decisions come back, whenever they were made.** The text of a decision reads as that decision,
it shows the time with the fewest digits that lose nothing, and no decision of another time has that
text. Days are counted on from the beginning of 1970 by the rules of the calendar. -/
theorem comesBack (d : Decision) (h : Rfc3339.Ordinary d.createdAt) :
    Json.decodeString (Json.encodeString d) = .ok d ∧
    (∃ shown, Rfc3339.Shows d.createdAt shown ∧
      Json.encodeString d = String.ofList (d.document shown)) ∧
    (∀ d' : Decision, Rfc3339.Ordinary d'.createdAt → d'.createdAt ≠ d.createdAt →
      Json.encodeString d' ≠ Json.encodeString d) ∧
    Date.ofDay 0 = ⟨1970, 1, 1⟩ ∧ ∀ day, Date.ofDay (day + 1) = (Date.ofDay day).next := by
  refine ⟨decodeString_encodeString h, ⟨_, Rfc3339.shows_write h, rfl⟩, fun d' h' hne htext => ?_,
    Date.ofDay_zero, Date.ofDay_add_one⟩
  have hread := decodeString_encodeString h'
  rw [htext, decodeString_encodeString h] at hread
  cases hread
  exact hne rfl

/-- A decision in the last nanosecond of 29 February of the year -4. -/
def onLeapDay : Decision := ⟨"\u00e9\n\"", "", true, ⟨-62288265601, 999999999⟩⟩

theorem comesBack_onLeapDay : Rfc3339.Ordinary onLeapDay.createdAt ∧
    Json.decodeString (Json.encodeString onLeapDay) = .ok onLeapDay ∧
    (∃ shown, Rfc3339.Shows onLeapDay.createdAt shown ∧
      Json.encodeString onLeapDay = String.ofList (onLeapDay.document shown)) ∧
    Json.encodeString { onLeapDay with createdAt := ⟨-62288265600, 0⟩ } ≠
      Json.encodeString onLeapDay := by
  have h : Rfc3339.Ordinary onLeapDay.createdAt := ⟨by decide, by decide⟩
  obtain ⟨hread, hshown, halone, -⟩ := comesBack onLeapDay h
  exact ⟨h, hread, hshown, halone _ ⟨by decide, by decide⟩ (by decide)⟩

end Decision

end LikedYou
