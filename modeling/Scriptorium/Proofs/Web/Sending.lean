import Scriptorium.Proofs.Forms
import Scriptorium.Proofs.Json.Strings
import Scriptorium.Web.Answer
set_option autoImplicit false

/-!
# Results on their way out

Results of all forms but those of papers keep the names of their fields.  A list is exposed and sent
item by item: it can be sent exactly if each of its items can.  A record can be sent if its names
and its values can, and a text if none of its characters is half of a pair.
-/

namespace Scriptorium

namespace Json

theorem writeItems_eq_map [Halves] (layout : Layout) (items : List Value) :
    writeItems layout items = items.map (write layout) := by
  induction items with
  | nil => rfl
  | cons item rest ih => rw [writeItems, ih, List.map_cons]

theorem areWritable_eq_all [Halves] (items : List Value) : areWritable items = items.all isWritable := by
  induction items with
  | nil => rfl
  | cons item rest ih => rw [areWritable, ih, List.all_cons]

theorem writeFields_eq_map [Halves] (layout : Layout) (fields : Fields) :
    writeFields layout fields = fields.map fun field =>
      quoteBy layout.ascii (Key.written field.1) ++ layout.colon ++ write layout field.2 := by
  induction fields with
  | nil => rfl
  | cons field rest ih => rw [writeFields, ih, List.map_cons]

theorem haveWritable_eq_all [Halves] (fields : Fields) :
    haveWritable fields =
      fields.all fun field => !Key.isUnbounded field.1 && isWritable field.2 := by
  induction fields with
  | nil => rfl
  | cons field rest ih => rw [haveWritable, ih, List.all_cons]

/-- What can be sent: all numbers are finite, and no character is half of a pair. -/
theorem unsendable?_eq_none_iff [Halves] (v : Value) :
    unsendable? v = none ↔
      isWritable v = true ∧ ∀ c ∈ (write packed v).toList, Text.Half.isHalf c = false := by
  unfold unsendable?
  cases hwritable : isWritable v with
  | false => simp
  | true => simp [Text.Utf8.encodeError?_eq_none_iff]

/-- A list can be sent exactly if its items can. -/
theorem unsendable?_list_eq_none_iff [Halves] (items : List Value) :
    unsendable? (.list items) = none ↔ ∀ v ∈ items, unsendable? v = none := by
  have hcomma : ∀ c ∈ packed.comma.toList, Text.Half.isHalf c = false :=
    List.forall_mem_singleton.mpr rfl
  have hopen : ∀ c ∈ "[".toList, Text.Half.isHalf c = false := List.forall_mem_singleton.mpr rfl
  have hclose : ∀ c ∈ "]".toList, Text.Half.isHalf c = false := List.forall_mem_singleton.mpr rfl
  simp only [unsendable?_eq_none_iff]
  rw [isWritable, areWritable_eq_all, List.all_eq_true, write, writeItems_eq_map,
    String.toList_append, String.toList_append, List.forall_mem_append, List.forall_mem_append,
    String.toList_intercalate, forall_mem_intercalate hcomma, List.map_map, List.forall_mem_map]
  constructor
  · rintro ⟨hwritable, ⟨-, hchars⟩, -⟩ v hv
    exact ⟨hwritable v hv, hchars v hv⟩
  · intro h
    exact ⟨fun v hv => (h v hv).1, ⟨hopen, fun v hv => (h v hv).2⟩, hclose⟩

/-- A character is written without halves exactly if it is none: escapes are written in ASCII. -/
theorem forall_escapeChar_iff [Halves] (c : Char) :
    (∀ d ∈ escapeChar false c, Text.Half.isHalf d = false) ↔ Text.Half.isHalf c = false := by
  have hascii : ∀ {cs : List Char} {c : Char}, Text.IsAscii cs → c.toNat < 128 →
      ((∀ d ∈ cs, Text.Half.isHalf d = false) ↔ Text.Half.isHalf c = false) := fun hcs hc =>
    iff_of_true (fun d hd => Text.Half.isHalf_ascii (hcs d hd)) (Text.Half.isHalf_ascii hc)
  have hshort : ∀ {e c : Char}, e.toNat < 128 → c.toNat < 128 →
      ((∀ d ∈ ['\\', e], Text.Half.isHalf d = false) ↔ Text.Half.isHalf c = false) :=
    fun he hc => hascii (.cons (by decide) (.cons he .nil)) hc
  unfold escapeChar
  split
  · exact hshort (by decide) (by decide)
  · exact hshort (by decide) (by decide)
  · exact hshort (by decide) (by decide)
  · exact hshort (by decide) (by decide)
  · exact hshort (by decide) (by decide)
  · exact hshort (by decide) (by decide)
  · exact hshort (by decide) (by decide)
  · split
    · exact List.forall_mem_singleton
    · rename_i hcontrol
      refine hascii ?_ (by simp at hcontrol; omega)
      intro d hd
      obtain ⟨unit, -, hmem⟩ := List.mem_flatMap.mp hd
      exact isAscii_escapeUnit unit d hmem

theorem forall_quoteBy_iff [Halves] (s : String) :
    (∀ c ∈ (quoteBy false s).toList, Text.Half.isHalf c = false) ↔
      ∀ c ∈ s.toList, Text.Half.isHalf c = false := by
  have hquote : ∀ c ∈ ['"'], Text.Half.isHalf c = false := List.forall_mem_singleton.mpr rfl
  have htext : (quoteBy false s).toList =
      ['"'] ++ s.toList.flatMap (escapeChar false) ++ ['"'] := by
    simp [quoteBy]
  rw [htext, List.forall_mem_append, List.forall_mem_append, and_iff_left hquote,
    and_iff_right hquote]
  simp only [List.mem_flatMap, forall_exists_index, and_imp]
  constructor
  · intro h c hc
    exact (forall_escapeChar_iff c).mp fun d hd => h d c hc hd
  · intro h d c hc hd
    exact (forall_escapeChar_iff c).mpr (h c hc) d hd

/-- A text can be sent exactly if it has no halves. -/
theorem unsendable?_text_eq_none_iff [Halves] (s : String) :
    unsendable? (.text s) = none ↔ ∀ c ∈ s.toList, Text.Half.isHalf c = false := by
  have hwritable : isWritable (.text s) = true := rfl
  rw [unsendable?_eq_none_iff, and_iff_right hwritable]
  exact forall_quoteBy_iff s

/-- A stamp can always be sent. -/
theorem unsendable?_stamp [Halves] (t : Stamp) : unsendable? (.stamp t) = none := by
  rw [unsendable?_eq_none_iff]
  exact ⟨rfl, fun c hc => Text.Half.isHalf_ascii (isAscii_quoteBy t.text c hc)⟩

/-- A record can be sent exactly if its names and its values can. -/
theorem unsendable?_record_eq_none_iff [Halves] (fields : Fields) :
    unsendable? (.record fields) = none ↔ ∀ field ∈ fields, Key.isUnbounded field.1 = false ∧
      unsendable? (.text (Key.written field.1)) = none ∧ unsendable? field.2 = none := by
  have hcomma : ∀ c ∈ packed.comma.toList, Text.Half.isHalf c = false :=
    List.forall_mem_singleton.mpr rfl
  have hcolon : ∀ c ∈ packed.colon.toList, Text.Half.isHalf c = false :=
    List.forall_mem_singleton.mpr rfl
  have hopen : ∀ c ∈ "\x7b".toList, Text.Half.isHalf c = false := List.forall_mem_singleton.mpr rfl
  have hclose : ∀ c ∈ "\x7d".toList, Text.Half.isHalf c = false := List.forall_mem_singleton.mpr rfl
  simp only [unsendable?_text_eq_none_iff]
  simp only [unsendable?_eq_none_iff]
  rw [isWritable, haveWritable_eq_all, List.all_eq_true, write, writeFields_eq_map,
    String.toList_append, String.toList_append, List.forall_mem_append, List.forall_mem_append,
    and_iff_left hclose, and_iff_right hopen, String.toList_intercalate,
    forall_mem_intercalate hcomma, List.map_map, List.forall_mem_map]
  simp only [Function.comp_apply, String.toList_append, List.forall_mem_append, Bool.and_eq_true,
    Bool.not_eq_true']
  constructor
  · rintro ⟨hwritable, hchars⟩ field hfield
    obtain ⟨⟨hname, -⟩, hvalue⟩ := hchars field hfield
    exact ⟨(hwritable field hfield).1, (forall_quoteBy_iff _).mp hname,
      (hwritable field hfield).2, hvalue⟩
  · intro h
    refine ⟨fun field hfield => ⟨(h field hfield).1, (h field hfield).2.2.1⟩, ?_⟩
    intro field hfield
    exact ⟨⟨(forall_quoteBy_iff _).mpr (h field hfield).2.1, hcolon⟩, (h field hfield).2.2.2⟩

theorem unsendable?_of_isAscii [Halves] {s : String} (h : Text.IsAscii s.toList) :
    unsendable? (.text s) = none :=
  (unsendable?_text_eq_none_iff s).mpr h.isHalf_eq_false

/-- A name that can be sent, however halves are kept: it has only ASCII characters. -/
def isSendableName (name : String) : Bool := decide (Text.IsAscii name.toList)

/-- A record whose names can be sent can be sent exactly if its values can. -/
theorem unsendable?_record_of_names [Halves] {fields : Fields}
    (hnames : (Fields.names fields).all isSendableName = true) :
    unsendable? (.record fields) = none ↔ ∀ field ∈ fields, unsendable? field.2 = none := by
  rw [unsendable?_record_eq_none_iff]
  constructor
  · intro h field hfield
    exact (h field hfield).2.2
  · intro h field hfield
    have hname : Text.IsAscii field.1.toList :=
      of_decide_eq_true (List.all_eq_true.mp hnames field.1 (List.mem_map_of_mem hfield))
    refine ⟨Key.isUnbounded_of_isAscii hname, ?_, h field hfield⟩
    rw [Key.written_of_isAscii hname]
    exact unsendable?_of_isAscii hname

end Json

namespace Web

open Schema

/-- A refusal in ASCII words can be sent. -/
theorem Answer.sent_refusal [Halves] (status : Nat) {words : String}
    (hwords : Text.IsAscii words.toList) :
    (refusal .plain status (.text words)).sent = refusal .plain status (.text words) := by
  have hbody : Json.unsendable? (.record [("detail", .text words)]) = none := by
    have hname : ["detail"].all Json.isSendableName = true := by decide +kernel
    have hnames : (Fields.names [("detail", Value.text words)]).all Json.isSendableName = true :=
      hname
    refine (Json.unsendable?_record_of_names hnames).mpr ?_
    rw [List.forall_mem_singleton]
    exact Json.unsendable?_of_isAscii hwords
  simp only [sent, refusal, Option.bind_some, hbody]

theorem exposed_list (items : List Value) : exposed (.list items) = .list (items.map exposed) := by
  have hitems : exposedItems items = items.map exposed := by
    induction items with
    | nil => rfl
    | cons item rest ih => rw [exposedItems, ih, List.map_cons]
  rw [exposed, hitems]

/-- Results of forms that call their fields by their own names stay as they are. -/
theorem keyed_eq_self (fuel : Nat) :
    (∀ shape : Shape FormName, shape.Within (· ∉ Forms.renamed) → ∀ v, keyed fuel shape v = v) ∧
      ∀ name, name ∉ Forms.renamed → ∀ fields,
        keyedFields fuel (Forms.fields name) fields = fields := by
  induction fuel with
  | zero =>
      constructor
      · intro shape _ v
        rw [keyed]
      · intro name _ fields
        rw [keyedFields]
  | succ fuel ih =>
      obtain ⟨hvalue, hfields⟩ := ih
      constructor
      · intro shape hwithin v
        cases shape with
        | form name =>
            cases v with
            | record fields => rw [keyed, hfields name (hwithin name rfl)]
            | _ => simp [keyed]
        | list item =>
            cases v with
            | list items =>
                have hitems : items.map (keyed fuel item) = items.map id :=
                  List.map_congr_left fun v _ => hvalue item hwithin v
                rw [keyed, hitems, List.map_id]
            | _ => simp [keyed]
        | _ => cases v <;> simp [keyed]
      · intro name hname fields
        rw [keyedFields]
        refine (List.map_congr_left ?_).trans (List.map_id fields)
        rintro ⟨key, v⟩ _
        dsimp only
        split
        · rename_i field hfound
          have hfield := List.mem_of_find?_eq_some hfound
          have hkey : field.name = key := by simpa using List.find?_some hfound
          rw [Forms.ownNames.key name hname field hfield, hkey,
            hvalue field.shape (Forms.ownNames.inner name hname field hfield)]
          rfl
        · rfl

end Web

end Scriptorium
