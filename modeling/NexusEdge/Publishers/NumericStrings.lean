import NexusEdge.Publishers.Fields

/-!
# Numbers of numeric strings

Library `Publishers`. The strings that `_isNumeric` accepts and what is stored for them,
`sif-cloud-publisher.js:149–193` and `linklab-influx-publisher.js:46–98`. A string is accepted by
its value as a number, but stored by `parseFloat`, which knows no other base than ten.
-/

namespace NexusEdge.Publishers
open NexusEdge.Base

/-- A string that the rule converts is a number among the payload fields. -/
theorem payload_getFields_of_rule {rule : StringRule JsNumber} {key str : String} {value : JsNumber}
    (hkey : key ≠ "__proto__") (h : rule key str = (.payload, .number value)) :
    (getFields rule key (.string str)).payload.get? key = some (.number value) := by
  rw [getFields_of_leaf key rfl, leafFields, convert, h]
  exact (congrArg (JsObject.get? · key) (if_neg hkey)).trans (JsObject.get?_set_self _ _ _)

/-- A numeric string is stored by both publishers as the number that `parseFloat` reads, under every
key that can be assigned to. This is the number by which it was accepted exactly if the string does
not have a prefix for another base, or stands for zero. -/
theorem stored_number_iff {str : String} (h : isNumeric str = true) :
    (∀ key, key ≠ "__proto__" →
      (getOpenTsdbFriendlyFields parseFloat key (.string str)).payload.get? key =
        some (.number (parseFloat str)) ∧
      (getConvertedFields parseFloat false key (.string str)).payload.get? key =
        some (.number (parseFloat str))) ∧
    (parseFloat str = toNumber str ↔ isPrefixedNonzero (trim str).toList = false) := by
  constructor
  · intro key hkey
    have hsif : sifRule parseFloat key str = (.payload, .number (parseFloat str)) := if_pos h
    have hinflux : influxRule parseFloat false key str = (.payload, .number (parseFloat str)) := by
      rw [influxRule, if_neg Bool.false_ne_true, if_pos h]
    exact ⟨payload_getFields_of_rule hkey hsif, payload_getFields_of_rule hkey hinflux⟩
  · rw [isNumeric, Bool.and_eq_true, Bool.not_eq_true', Bool.not_eq_true'] at h
    exact parseFloat_eq_toNumber_iff h.1 h.2

/-- A reading with an exponent is stored as what it is. -/
theorem stored_number_exponent : parseFloat " 2.5e1" = toNumber " 2.5e1" :=
  (stored_number_iff (by decide)).2.mpr (by decide)

/-- A hexadecimal string is accepted, and stored as zero. -/
theorem hexadecimal_stored_as_zero :
    ¬ ∀ str : String, isNumeric str = true → parseFloat str = toNumber str := by
  intro h
  have hequal := h "0x10" (by decide)
  revert hequal
  decide +kernel

end NexusEdge.Publishers
