import ImageStages.Template.Fill

namespace ImageStages.Medium

def remainder (left right : Int) : Except Template.Fault Document :=
  if right = 0 then .error (.mishap .zeroModulus) else .ok (.int (left.fmod right))

/-- What the label and the architecture come to.  Only texts are templates; of two
integers the remainder is taken. -/
def combine (label arch : Document) : Except Template.Fault Document :=
  match label with
  | .scalar (.text template) =>
      (Template.fill template arch).map Document.text
  | .scalar left =>
      match left.int?, arch with
      | some dividend, .scalar right =>
          match right.int? with
          | some divisor => remainder dividend divisor
          | none => .error (.notFormatting left.kind right.kind)
      | _, _ => .error (.notFormatting left.kind arch.kind)
  | other => .error (.notFormatting other.kind arch.kind)

/-- A fault of the template is the caller's, unless it lies in a missing key or in
arithmetic. -/
def labelFailure (label : Document) (fault : Template.Fault) : Failure :=
  let invalid : Failure := .invalid (.general [.text
    ("ISO label template " ++ label.quoted ++ " must contain one %s: " ++ fault.message)])
  match fault with
  | .mishap cause =>
      match cause.family with
      | .kind | .value => invalid
      | _ => .mishap cause
  | _ => invalid

def volumeId (label arch : Document) : Except Failure Document :=
  (combine label arch).mapError (labelFailure label)

end ImageStages.Medium
