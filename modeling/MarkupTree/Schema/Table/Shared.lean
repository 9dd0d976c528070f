import MarkupTree.Schema.Info

/-!
# Properties shared by HTML and SVG

The properties of the three foreign namespaces, those of accessible applications, and the event
handlers.
-/

namespace MarkupTree.Schema.Table

def xlinkProperties : List (String × List Trait) :=
  [("xLinkActuate", []), ("xLinkArcRole", []), ("xLinkHref", []), ("xLinkRole", []),
   ("xLinkShow", []), ("xLinkTitle", []), ("xLinkType", [])]

def xmlProperties : List (String × List Trait) :=
  [("xmlLang", []), ("xmlBase", []), ("xmlSpace", [])]

/-- The attribute names of namespace declarations that differ from the lower form of the
property. -/
def xmlnsAttributes : List (String × String) :=
  [("xmlnsxlink", "xmlns:xlink")]

def xmlnsProperties : List (String × List Trait) :=
  [("xmlnsXLink", []), ("xmlns", [])]

def ariaProperties : List (String × List Trait) :=
  [("ariaActiveDescendant", []), ("ariaAtomic", [.booleanish]), ("ariaAutoComplete", []),
   ("ariaBusy", [.booleanish]), ("ariaChecked", [.booleanish]), ("ariaColCount", [.number]),
   ("ariaColIndex", [.number]), ("ariaColSpan", [.number]), ("ariaControls", [.spaceSeparated]),
   ("ariaCurrent", []), ("ariaDescribedBy", [.spaceSeparated]), ("ariaDetails", []),
   ("ariaDisabled", [.booleanish]), ("ariaDropEffect", [.spaceSeparated]),
   ("ariaErrorMessage", []), ("ariaExpanded", [.booleanish]), ("ariaFlowTo", [.spaceSeparated]),
   ("ariaGrabbed", [.booleanish]), ("ariaHasPopup", []), ("ariaHidden", [.booleanish]),
   ("ariaInvalid", []), ("ariaKeyShortcuts", []), ("ariaLabel", []),
   ("ariaLabelledBy", [.spaceSeparated]), ("ariaLevel", [.number]), ("ariaLive", []),
   ("ariaModal", [.booleanish]), ("ariaMultiLine", [.booleanish]),
   ("ariaMultiSelectable", [.booleanish]), ("ariaOrientation", []),
   ("ariaOwns", [.spaceSeparated]), ("ariaPlaceholder", []), ("ariaPosInSet", [.number]),
   ("ariaPressed", [.booleanish]), ("ariaReadOnly", [.booleanish]), ("ariaRelevant", []),
   ("ariaRequired", [.booleanish]), ("ariaRoleDescription", [.spaceSeparated]),
   ("ariaRowCount", [.number]), ("ariaRowIndex", [.number]), ("ariaRowSpan", [.number]),
   ("ariaSelected", [.booleanish]), ("ariaSetSize", [.number]), ("ariaSort", []),
   ("ariaValueMax", [.number]), ("ariaValueMin", [.number]), ("ariaValueNow", [.number]),
   ("ariaValueText", []), ("role", [])]

/-- The names of the event handlers. -/
def eventHandlers : List String :=
  ["onAbort", "onAfterPrint", "onAuxClick", "onBeforeMatch", "onBeforePrint", "onBeforeToggle",
   "onBeforeUnload", "onBlur", "onCancel", "onCanPlay", "onCanPlayThrough", "onChange", "onClick",
   "onClose", "onContextLost", "onContextMenu", "onContextRestored", "onCopy", "onCueChange",
   "onCut", "onDblClick", "onDrag", "onDragEnd", "onDragEnter", "onDragExit", "onDragLeave",
   "onDragOver", "onDragStart", "onDrop", "onDurationChange", "onEmptied", "onEnded", "onError",
   "onFocus", "onFormData", "onHashChange", "onInput", "onInvalid", "onKeyDown", "onKeyPress",
   "onKeyUp", "onLanguageChange", "onLoad", "onLoadedData", "onLoadedMetadata", "onLoadEnd",
   "onLoadStart", "onMessage", "onMessageError", "onMouseDown", "onMouseEnter", "onMouseLeave",
   "onMouseMove", "onMouseOut", "onMouseOver", "onMouseUp", "onOffline", "onOnline", "onPageHide",
   "onPageShow", "onPaste", "onPause", "onPlay", "onPlaying", "onPopState", "onProgress",
   "onRateChange", "onRejectionHandled", "onReset", "onResize", "onScroll", "onScrollEnd",
   "onSecurityPolicyViolation", "onSeeked", "onSeeking", "onSelect", "onSlotChange", "onStalled",
   "onStorage", "onSubmit", "onSuspend", "onTimeUpdate", "onToggle", "onUnhandledRejection",
   "onUnload", "onVolumeChange", "onWaiting", "onWheel"]

/-- The event handlers as properties. -/
def eventProperties : List (String × List Trait) := eventHandlers.map fun name => (name, [])

end MarkupTree.Schema.Table
