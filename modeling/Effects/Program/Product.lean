import Effects.Capture

/-!
# Products with an early exit

The product of a list is a fold inside a capture scope. A zero leaves the scope at once, so later
elements are never visited.
-/

namespace Effects.Program

/-- The outcome of a product with a zero in it. -/
def zeroProduct : Value := .str "Product is 0"

/-- The product of a list; `inspect` is carried out for each element that is visited. -/
def inspectedProduct (xs : List Float) (inspect : Float → Plan Unit) : Process :=
  callCCCommand fun token =>
    (Process.fold (xs.map .num) (.num 1) fun product item =>
      let x := item.asNum?.getD 0
      .ofPlan (inspect x) fun _ =>
        if x == 0 then (token.exit zeroProduct).start
        else (Process.pure (.num (product.asNum?.getD 0 * x))).start).start

/-- The product of a list. -/
def product (xs : List Float) : Process := inspectedProduct xs fun _ => .done ()

/-- Leaves its scope through the escape, or by returning. -/
def simpleCapture (early : Bool) : Process :=
  callCCCommand fun token =>
    if early then ((token.exit (.str "early exit")).andAlso (.pure .null)).start
    else (Process.pure (.str "normal exit")).start

end Effects.Program
