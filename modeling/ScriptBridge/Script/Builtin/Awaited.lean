import ScriptBridge.Script.Builtin.Function

/-!
# Arrays of awaited items

`Array.fromAsync` waits again and again while it runs, as an async function does.  It is one: its
text is evaluated and called, so that each wait is an `await` of the language.
-/

namespace ScriptBridge.Script

/-- The function that makes an array of items it waits for. -/
def awaitedItemsSource : String :=
  "'use strict';
  (async function fromAsync(arrayLike, mapFn = undefined, thisArg = undefined) \x7b
    if (mapFn !== undefined && typeof mapFn !== 'function') throw new TypeError('not a function')
    let result, i = 0, isConstructor = typeof this === 'function'
    let sync = false, method = arrayLike[Symbol.asyncIterator]
    if (method == null) \x7b
      sync = true
      method = arrayLike[Symbol.iterator]
    \x7d
    const put = (value) =>
      Object.defineProperty(result, i++, \x7b value, configurable: true, writable: true \x7d)
    if (method == null) \x7b
      let \x7b length \x7d = arrayLike
      length = +length || 0
      result = isConstructor ? new this(length) : Array(length)
      while (i < length) \x7b
        let value = arrayLike[i]
        if (sync) value = await value
        if (mapFn) value = await mapFn.call(thisArg, value, i)
        put(value)
      \x7d
    \x7d else \x7b
      const iter = method.call(arrayLike)
      result = isConstructor ? new this() : Array()
      while (true) \x7b
        let \x7b done, value \x7d = await iter.next()
        if (done) break
        if (sync) value = await value
        if (mapFn) value = await mapFn.call(thisArg, value, i)
        put(value)
      \x7d
    \x7d
    result.length = i
    return result
  \x7d)"

/-- Makes an array of items that it waits for: the promise for it. -/
def Proc.arrayFromAwaited (c : NativeCall) : Proc Value := do
  let f ← evalText (Str.ofString awaitedItemsSource) outermost false
  call f c.this c.args

end ScriptBridge.Script
