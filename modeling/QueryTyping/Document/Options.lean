import QueryTyping.Document.Form
import QueryTyping.Inference

/-! Inference options as documents. -/

namespace QueryTyping

def InferenceOptions.form (members : Json.Members) : Form InferenceOptions :=
  let usual : InferenceOptions := {}
  InferenceOptions.mk <$> Form.optional "maxDepth" usual.maxDepth
    (members.find "maxDepth" (Json.readBelow (Nat.pow 2 64)))

def InferenceOptions.ofJson : Json → Except Refusal InferenceOptions :=
  Form.readClosedRecord InferenceOptions.form

end QueryTyping
