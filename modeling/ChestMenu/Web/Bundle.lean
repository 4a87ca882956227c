import ChestMenu.Menu.Directory

/-!
# The menus of the web host

The web host brings three menus along: a main menu, a shop in which things are sold for gold, and a
catalog with pages.
-/
namespace ChestMenu.Web

/-- The document of the main menu. -/
def mainMenu : String :=
"\x7b
  \"title\": \"Main Menu\",
  \"size\": 27,
  \"items\": \x7b
    \"shop\": \x7b
      \"material\": \"EMERALD\",
      \"name\": \"Shop\",
      \"lore\": [\"Online now: \x7bonline\x7d\"],
      \"slot\": 11,
      \"actions\": [\"[SOUND] UI_BUTTON_CLICK\", \"[OPEN] shop.yml\"]
    \x7d,
    \"catalog\": \x7b
      \"material\": \"BOOK\",
      \"name\": \"Catalog\",
      \"slot\": 13,
      \"actions\": [\"[OPEN] catalog\"]
    \x7d,
    \"welcome\": \x7b
      \"material\": \"PLAYER_HEAD\",
      \"name\": \"Hello \x7bplayer\x7d\",
      \"lore\": [\"Level \x7blevel\x7d\"],
      \"slot\": 4,
      \"clickable\": false
    \x7d,
    \"close\": \x7b
      \"material\": \"BARRIER\",
      \"name\": \"Close\",
      \"slot\": 15,
      \"actions\": [\"[MESSAGE] See you, \x7bplayer\x7d\", \"[CLOSE]\"]
    \x7d
  \x7d
\x7d
"

/-- The document of the shop. -/
def shopMenu : String :=
"title: \"Shop - \x7bplayer\x7d\"
size: 27
context-aware: true
items:
  border:
    material: GRAY_STAINED_GLASS_PANE
    name: \" \"
    slot: \"0-8, 18-21, 23-26\"
    clickable: false
  balance:
    material: GOLD_INGOT
    name: \"Gold: \x7bcontext.gold\x7d\"
    lore:
      - \"Sells for \x7bprice\x7d gold each\"
      - \"Click to sell one\"
    slot: 13
    metadata:
      price: \"10\"
    actions:
      - \"[ACTION] SELL\"
      - \"[SOUND] ENTITY_EXPERIENCE_ORB_PICKUP 1.0 1.2\"
  vip:
    material: DIAMOND
    name: \"VIP corner\"
    slot: 15
    visible-if: \"\x7bcontext.vip\x7d == true\"
    actions:
      - \"[IF] \x7bpermission\x7d has shop.vip [THEN] [MESSAGE] Welcome back, \x7bplayer\x7d [ELSE] [MESSAGE] VIP members only\"
  back:
    material: ARROW
    name: \"Back\"
    slot: 22
    actions:
      - \"[OPEN] main.json\"
auto-refresh:
  enabled: true
  interval: 20
  slots: [13]
player-inventory:
  enabled: true
  handler: shop_deposit
"

/-- The document of the catalog. -/
def catalogMenu : String :=
"title: \"Catalog (\x7bpage\x7d/\x7btotal_pages\x7d)\"
size: 27
pagination:
  enabled: true
  slots: \"10-12\"
  items:
    - \x7bmaterial: APPLE, name: \"Apple\", lore: [\"Page \x7bpage\x7d\"]\x7d
    - \x7bmaterial: BREAD, name: \"Bread\", lore: [\"Page \x7bpage\x7d\"]\x7d
    - \x7bmaterial: CARROT, name: \"Carrot\", lore: [\"Page \x7bpage\x7d\"]\x7d
    - \x7bmaterial: COOKED_BEEF, name: \"Steak\", lore: [\"Page \x7bpage\x7d\"]\x7d
    - \x7bmaterial: CAKE, name: \"Cake\", lore: [\"Page \x7bpage\x7d\"]\x7d
items:
  previous:
    material: ARROW
    name: \"Previous\"
    slot: 18
    actions:
      - \"[IF] \x7bpage\x7d == 0 [THEN] [OPEN] main.json [ELSE] [PAGE] -1\"
  next:
    material: ARROW
    name: \"Next\"
    slot: 26
    actions:
      - \"[PAGE] +1\"
"

/-- The directory of these menus. -/
def bundledMenus : FileListing :=
  [("shop.yml", shopMenu), ("catalog.yml", catalogMenu), ("main.json", mainMenu)].map
    fun (name, document) => (name, .text document.toList)

end ChestMenu.Web
