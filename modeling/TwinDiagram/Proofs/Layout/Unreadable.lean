import TwinDiagram.Proofs.File.Store
import TwinDiagram.Proofs.Json.Nesting
import TwinDiagram.Proofs.Json.Printable
import TwinDiagram.Proofs.Layout.Entry

namespace TwinDiagram.Layout.Cache

def drawingOf? (s : String) : Option (Drawing Float) := do
  let j ← Json.readChars s.toList
  let j ← (Interchange.Shape.drawing.read ⟨true, false⟩ j).toOption
  return .ofJson j

def Lookup.ofText (s : String) : Lookup := (drawingOf? s).elim .unreadable .found

theorem readEntry_toUTF8 (s : String) : readEntry s.toUTF8 = .ok (drawingOf? s) := by
  have hdecode : Interchange.decode s.toUTF8 = Json.readChars s.toList := by
    rw [Interchange.decode, Text.decodeUtf8_toUTF8]
  rw [readEntry, Text.decodeUtf8_toUTF8, Interchange.readAs, hdecode, drawingOf?]
  cases Json.readChars s.toList with
  | none => rfl
  | some j =>
    cases hread : Interchange.Shape.read ⟨true, false⟩ Interchange.Shape.drawing j <;>
      simp only [hread, Option.bind_eq_bind, Option.bind_some] <;> rfl

theorem readEntry_eq_error_iff {bytes : ByteArray} :
    (∃ f, readEntry bytes = .error f) ↔ ¬ bytes.IsValidUTF8 := by
  constructor
  · rintro ⟨f, hf⟩ ⟨cs, rfl⟩
    have htext := readEntry_toUTF8 (.ofList cs)
    rw [String.toUTF8, String.toByteArray_ofList, hf] at htext
    cases htext
  · intro hvalid
    cases hdecode : Text.decodeUtf8 bytes with
    | error f =>
      rw [readEntry, hdecode]
      exact ⟨f, rfl⟩
    | ok cs =>
      rw [← String.toList_ofList (l := cs)] at hdecode
      rw [Text.decodeUtf8_eq_ok_iff.mp hdecode] at hvalid
      exact absurd (String.isValidUTF8 _) hvalid

variable (fs : Files) (directory : Address) (g : Graph) (m : Metrics Float) (bytes : ByteArray)

theorem get_put : get (fs.put (entry directory g m) bytes) directory g m =
    (readEntry bytes).map fun d ↦ d.elim .unreadable .found := by
  simp only [get, Files.content?_put, if_true]
  cases readEntry bytes with
  | error f => rfl
  | ok d => cases d <;> rfl

/-- An entry that holds a text never makes the lookup fail, be it cut short, no JSON, or no drawing.
One that does not hold UTF-8 always does. -/
theorem get_put_entry :
    (∀ s : String, bytes = s.toUTF8 →
      get (fs.put (entry directory g m) bytes) directory g m = .ok (.ofText s)) ∧
    ((∃ f, get (fs.put (entry directory g m) bytes) directory g m = .error f) ↔
      ¬ bytes.IsValidUTF8) := by
  rw [get_put]
  constructor
  · rintro s rfl
    rw [readEntry_toUTF8]
    rfl
  · rw [← readEntry_eq_error_iff]
    cases readEntry bytes <;> simp [Except.map]

/-- A single byte that begins no character. -/
theorem get_fails_of_stray_byte :
    ¬ ∀ (fs : Files) (directory : Address) (g : Graph) (m : Metrics Float) (bytes : ByteArray),
      ∃ found, get (fs.put (entry directory g m) bytes) directory g m = .ok found := by
  intro h
  obtain ⟨found, hfound⟩ := h Files.empty [] ⟨[], []⟩ .standard ⟨#[0xff]⟩
  rw [get_put] at hfound
  have hread : readEntry ⟨#[0xff]⟩ = .error ⟨0, .invalidStart⟩ := by
    have hdecode : Text.decodeUtf8 ⟨#[0xff]⟩ = .error ⟨0, .invalidStart⟩ := by
      rw [Text.decodeUtf8, Text.toList_eq]
      rfl
    rw [readEntry, hdecode]
    rfl
  rw [hread] at hfound
  cases hfound

theorem drawingOf?_eq_none_of_append {d : Drawing Float} {part rest : String}
    (h : part ++ rest = entryText d) (hrest : rest ≠ "") : drawingOf? part = none := by
  have hprint : part.toList ++ rest.toList = Json.print (.indented 2) 0 d.toJson := by
    rw [← String.toList_append, h, entryText, Json.render, String.toList_ofList]
  have hread : Json.readChars part.toList = none :=
    Json.readWithin_eq_none_of_print_object (Json.Spacing.proper_indented 2) _ 0 _ hprint
      (mt String.toList_eq_nil_iff.mp hrest)
  rw [drawingOf?, hread]
  rfl

/-- What an interrupted write leaves behind is passed over: as long as one byte of the text is
missing, there is no drawing. -/
theorem get_of_interrupted_set (directory : Address) (g : Graph) (d : Drawing Float)
    (m : Metrics Float) :
    (∀ fs fs', set fs directory g d m = .ok fs' →
      fs'.content? (entry directory g m) = some (entryText d).toUTF8) ∧
    ∀ fs written missing, written ++ missing = (entryText d).toUTF8 → missing ≠ .empty →
      fs.content? (entry directory g m) = some written →
      (get fs directory g m).map Lookup.drawing? = .ok none := by
  constructor
  · intro fs fs' h
    rw [Files.write_ok h, Files.content?_put, if_pos rfl]
  · intro fs written missing h hmissing hcontent
    have hascii : ∀ c ∈ (entryText d).toList, c.toNat < 0x80 := by
      rw [entryText, Json.render, String.toList_ofList]
      exact fun c hc ↦ Json.ascii_of_isPrintable
        (Json.isPrintable_print (Json.Spacing.printable_indented 2) _ _ c hc)
    obtain ⟨part, rest, htext, rfl, rfl⟩ := Text.exists_append_of_ascii hascii h
    have hrest : rest ≠ "" := by
      rintro rfl
      exact hmissing rfl
    simp only [get, hcontent, readEntry_toUTF8, drawingOf?_eq_none_of_append htext hrest]
    rfl

/-- The writing stopped within a label, behind a quote and a brace that belong to it. -/
theorem get_of_cut_label :
    let n : Node := ⟨"a", "\"\x7d\x7b", .goal "r" none⟩
    let d : Drawing Float :=
      ⟨[⟨n, ⟨1, 2⟩, ⟨1, 2⟩, .absolute, none, "\"\x7d\x7b", none, none⟩], [], 3, 4⟩
    let part := "\x7b\n  \"nodes\": [\n    \x7b\n      \"node\": \x7b\n        \"id\": \"a\",\n" ++
      "        \"label\": \"\\\"\x7d"
    ∃ missing : ByteArray, part.toUTF8 ++ missing = (entryText d).toUTF8 ∧ missing ≠ .empty ∧
      (get (Files.empty.put (entry [] ⟨[n], []⟩ .standard) part.toUTF8) [] ⟨[n], []⟩ .standard).map
        Lookup.drawing? = .ok none := by
  intro n d part
  let chars := Json.print (.indented 2) 0 d.toJson
  have hpart : chars.take 77 = part.toList := by decide +kernel
  have htext : part.toUTF8 ++ (String.ofList (chars.drop 77)).toUTF8 = (entryText d).toUTF8 := by
    rw [entryText, Json.render, ← List.take_append_drop 77 (Json.print _ _ _), String.ofList_append,
      hpart, String.ofList_toList]
    exact String.toByteArray_append.symm
  have hmissing : (String.ofList (chars.drop 77)).toUTF8 ≠ .empty := by
    intro h
    have hempty : String.ofList (chars.drop 77) = "" := String.toByteArray_inj.mp h
    have hrest : chars.drop 77 ≠ [] := by decide +kernel
    exact hrest (String.ofList_injective hempty)
  have hcontent := Files.content?_put .empty (entry [] ⟨[n], []⟩ .standard)
    (entry [] ⟨[n], []⟩ .standard) part.toUTF8
  rw [if_pos rfl] at hcontent
  exact ⟨_, htext, hmissing,
    (get_of_interrupted_set [] ⟨[n], []⟩ d .standard).2 _ _ _ htext hmissing hcontent⟩

end TwinDiagram.Layout.Cache
