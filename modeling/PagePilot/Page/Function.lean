/-!
# Page functions

The functions that the built-in actions and checks evaluate inside the page. Each takes a selector
as its first argument. A function that needs an element gives `null` if nothing matches, so that a
missing element is no negative answer.

## Main definitions

- `PageFunction` - the nine functions
- `PageFunction.source`, `PageFunction.label` - their text and their short name
-/

namespace PagePilot

/-- The functions that the built-in actions and checks evaluate. -/
inductive PageFunction
  /-- Clicks the first match: `true`, or `false` if there is none. -/
  | click
  /-- The top left corner of the first match, as an object with `left` and `top`. -/
  | clickTarget
  /-- Gives the first match a value and fires its change event: `"ok"`, `"missing"` or
  `"not-input"`. -/
  | setValue
  /-- The number of matches. -/
  | count
  /-- Whether the first match has a class. -/
  | hasClass
  /-- Whether the first match takes up room. -/
  | visible
  /-- The value of the first match as a text; `false` if it has none. -/
  | value
  /-- The trimmed texts of all matches, joined. -/
  | text
  /-- Whether the first match is checked. -/
  | checked
deriving DecidableEq, Repr

namespace PageFunction

/-- All functions. -/
def all : List PageFunction :=
  [.click, .clickTarget, .setValue, .count, .hasClass, .visible, .value, .text, .checked]

/-- The short name of a function. -/
def label : PageFunction → String
  | .click => "CLICK"
  | .clickTarget => "CLICK_TARGET"
  | .setValue => "SET_VALUE"
  | .count => "COUNT"
  | .hasClass => "HAS_CLASS"
  | .visible => "VISIBLE"
  | .value => "VALUE"
  | .text => "TEXT"
  | .checked => "CHECKED"

/-- The text of a function. -/
def source : PageFunction → String
  | .click => "function (selector) \x7b
    var element = document.querySelector(selector);
    if (!element) return false;
    var event = document.createEvent('MouseEvents');
    event.initEvent('click', true, true);
    element.dispatchEvent(event);
    return true;
\x7d"
  | .clickTarget => "function (selector) \x7b
    var element = document.querySelector(selector);
    if (!element) return null;
    var box = element.getBoundingClientRect();
    return \x7b left: Math.ceil(box.left), top: Math.ceil(box.top) \x7d;
\x7d"
  | .setValue => "function (selector, value) \x7b
    var element = document.querySelector(selector);
    if (!element) return 'missing';
    if (typeof element.value === 'undefined') return 'not-input';
    element.value = value;
    var event = document.createEvent('HTMLEvents');
    event.initEvent('change', false, true);
    element.dispatchEvent(event);
    return 'ok';
\x7d"
  | .count => "function (selector) \x7b
    return document.querySelectorAll(selector).length;
\x7d"
  | .hasClass => "function (selector, name) \x7b
    var element = document.querySelector(selector);
    if (!element) return null;
    return element.classList.contains(name);
\x7d"
  | .visible => "function (selector) \x7b
    var element = document.querySelector(selector);
    if (!element) return null;
    var box = element.getBoundingClientRect();
    return box.width > 0 && box.height > 0;
\x7d"
  | .value => "function (selector) \x7b
    var element = document.querySelector(selector);
    if (!element) return null;
    if (typeof element.value === 'undefined') return false;
    return String(element.value);
\x7d"
  | .text => "function (selector) \x7b
    var elements = document.querySelectorAll(selector);
    if (!elements.length) return null;
    return Array.prototype.map.call(elements, function (element) \x7b
        return (element.innerText || element.textContent || '').trim();
    \x7d).join('');
\x7d"
  | .checked => "function (selector) \x7b
    var element = document.querySelector(selector);
    if (!element) return null;
    return !!element.checked;
\x7d"

/-- The function with the given short name. -/
def ofLabel? (label : String) : Option PageFunction :=
  all.find? fun f => f.label == label

/-- The function whose text is exactly `source`. -/
def ofSource? (source : String) : Option PageFunction :=
  all.find? fun f => f.source == source

end PageFunction

end PagePilot
