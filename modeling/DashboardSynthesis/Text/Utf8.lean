import DashboardSynthesis.Text.Basic

/-!
# Texts as bytes

A text is stored in UTF-8.  `encode?` fails exactly on a text with a surrogate, `decode?` exactly on
bytes that are no UTF-8, and the two are inverse to each other (`decode?_of_encode?`).  A text file is
read with every line break, be it a line feed, a carriage return or both, as one line feed.
-/

namespace DashboardSynthesis
namespace Text

/-- The bytes of a text in UTF-8. -/
def encode? (t : Text) : Option ByteArray := t.toString?.map String.toUTF8

/-- The text of bytes in UTF-8. -/
def decode? (bytes : ByteArray) : Option Text := (String.fromUTF8? bytes).map ofString

/-- The text with each of its line breaks as a single line feed. -/
def unifyLineBreaks : Text → Text
  | [] => []
  | .scalar '\r' :: .scalar '\n' :: rest => .scalar '\n' :: unifyLineBreaks rest
  | .scalar '\r' :: rest => .scalar '\n' :: unifyLineBreaks rest
  | c :: rest => c :: unifyLineBreaks rest

/-- The text of a text file. -/
def ofFile? (bytes : ByteArray) : Option Text := (decode? bytes).map unifyLineBreaks

/-! ## Interface lemmas -/

@[simp] theorem toString?_ofString (s : String) : toString? (ofString s) = some s := by
  have h : ∀ cs : List Char, (cs.map CodePoint.scalar).mapM CodePoint.char? = some cs := by
    intro cs
    induction cs with
    | nil => rfl
    | cons c cs ih =>
      rw [List.map_cons, List.mapM_cons, ih]
      rfl
  unfold toString? ofString
  rw [h]
  simp

theorem ofString_of_toString? {t : Text} {s : String} (h : toString? t = some s) :
    ofString s = t := by
  simp only [toString?, Option.map_eq_some_iff] at h
  obtain ⟨cs, hcs, rfl⟩ := h
  simp only [ofString, String.toList_ofList]
  induction t generalizing cs with
  | nil => simp at hcs; simp [hcs]
  | cons c t ih =>
    cases c with
    | surrogate n => simp [CodePoint.char?] at hcs
    | scalar c =>
      simp only [List.mapM_cons, CodePoint.char?, Option.bind_eq_bind, Option.bind_some,
        Option.pure_def, Option.bind_eq_some_iff, Option.some.injEq] at hcs
      obtain ⟨cs', h', rfl⟩ := hcs
      simp [ih _ h']

theorem decode?_of_encode? {t : Text} {bytes : ByteArray} (h : encode? t = some bytes) :
    decode? bytes = some t := by
  simp only [encode?, Option.map_eq_some_iff] at h
  obtain ⟨s, hs, rfl⟩ := h
  have : String.fromUTF8? s.toUTF8 = some s := by
    simp [String.fromUTF8?, s.isValidUTF8, String.fromUTF8]
  unfold decode?
  rw [this]
  simp [ofString_of_toString? hs]

end Text
end DashboardSynthesis
