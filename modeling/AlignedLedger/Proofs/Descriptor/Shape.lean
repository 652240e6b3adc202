import AlignedLedger.Datum.Equality
import AlignedLedger.Descriptor

/-! The values that a descriptor is made for: what each kind of descriptor takes and gives back, before
any look at ranges and lengths. -/

namespace AlignedLedger.Descriptor

/-- Induction over descriptors, where the case of a struct has the claim for each of its fields. -/
@[elab_as_elim, induction_eliminator]
theorem induct {motive : Descriptor → Prop} (uint : ∀ max width, motive (.uint max width))
    (enum : ∀ max width cls, motive (.enum max width cls)) (bytes : ∀ length, motive (.bytes length))
    (bool : motive .bool) (text : motive .text) (field : motive .field)
    (vector : ∀ count element, motive element → motive (.vector count element))
    (maybe : ∀ payload, motive payload → motive (.maybe payload))
    (either : ∀ left right, motive left → motive right → motive (.either left right))
    (struct : ∀ name fields, (∀ f ∈ fields, motive f.2) → motive (.struct name fields))
    (d : Descriptor) : motive d :=
  match d with
  | .uint m w => uint m w
  | .enum m w c => enum m w c
  | .bytes n => bytes n
  | .bool => bool
  | .text => text
  | .field => field
  | .vector n e =>
    vector n e (induct uint enum bytes bool text field vector maybe either struct e)
  | .maybe p => maybe p (induct uint enum bytes bool text field vector maybe either struct p)
  | .either l r =>
    either l r (induct uint enum bytes bool text field vector maybe either struct l)
      (induct uint enum bytes bool text field vector maybe either struct r)
  | .struct name fs =>
    struct name fs fun f _ => induct uint enum bytes bool text field vector maybe either struct f.2
termination_by d
decreasing_by
  all_goals simp_wf
  all_goals try omega
  next hf =>
    have h := List.sizeOf_lt_of_mem hf
    cases f
    simp only [Prod.mk.sizeOf_spec] at h ⊢
    omega

/-- The value has the shape that is documented for the descriptor. Members of enumerations count as the
integers they are; where a class is attached, the value is one of its members. A struct takes a dict in
any order, each of whose fields has its own shape. -/
inductive HasShape : Descriptor → Datum → Prop
  | uint {max width : Nat} {v : Datum} {i : Int} (h : v.integer? = some i) :
    HasShape (.uint max width) v
  | ordinal {max width : Nat} {v : Datum} {i : Int} (h : v.integer? = some i) :
    HasShape (.enum max width none) v
  | member {max width : Nat} {c : EnumClass} {v : Datum} {i : Int} (h : c.member? i = some v) :
    HasShape (.enum max width (some c)) v
  | bytes {length : Nat} (b : Bytes) : HasShape (.bytes length) (.bytes b)
  | bool (b : Bool) : HasShape .bool (.bool b)
  | text (s : String) : HasShape .text (.text s)
  | field {v : Datum} {i : Int} (h : v.integer? = some i) : HasShape .field v
  | vector {count : Nat} {e : Descriptor} {xs : List Datum} (h : ∀ x ∈ xs, HasShape e x) :
    HasShape (.vector count e) (.tuple xs)
  | maybe {p : Descriptor} {x : Datum} (isSome : Bool) (h : HasShape p x) :
    HasShape (.maybe p) (.maybe (.bool isSome) x)
  | either {l r : Descriptor} {x y : Datum} (isLeft : Bool) (hl : HasShape l x) (hr : HasShape r y) :
    HasShape (.either l r) (.either (.bool isLeft) x y)
  | struct {name : String} {fs : List (String × Descriptor)} {es : List (Datum × Datum)}
    (hk : (es.map Prod.fst).Nodup)
    (h : ∀ f ∈ fs, ∀ v, (Datum.text f.1, v) ∈ es → HasShape f.2 v) : HasShape (.struct name fs) (.dict es)

end AlignedLedger.Descriptor
