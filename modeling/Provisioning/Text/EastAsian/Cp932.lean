import Provisioning.Text.EastAsian.Grid

/-!
# Code page 932

What code page 932 adds to the shifted codes of JIS X 0208. A row is the first byte of a code and a
cell the second.
-/

set_option autoImplicit false

namespace Provisioning.Text.EastAsian

/-- The characters that code page 932 adds. -/
def cp932Additions : Grid :=
  [⟨0x81, 0x60, "～∥"⟩, ⟨0x81, 0x7C, "－"⟩, ⟨0x81, 0x91, "￠￡"⟩, ⟨0x81, 0xCA, "￢"⟩,
   ⟨0x87, 0x40, "①②③④⑤⑥⑦⑧⑨⑩⑪⑫⑬⑭⑮⑯⑰⑱⑲⑳ⅠⅡⅢⅣⅤⅥⅦⅧⅨⅩ"⟩,
   ⟨0x87, 0x5F, "㍉㌔㌢㍍㌘㌧㌃㌶㍑㍗㌍㌦㌣㌫㍊㌻㎜㎝㎞㎎㎏㏄㎡"⟩, ⟨0x87, 0x7E, "㍻"⟩,
   ⟨0x87, 0x80, "〝〟№㏍℡㊤㊥㊦㊧㊨㈱㈲㈹㍾㍽㍼"⟩, ⟨0x87, 0x93, "∮∑"⟩, ⟨0x87, 0x98, "∟⊿"⟩,
   ⟨0xED, 0x40, "纊褜鍈銈蓜俉炻昱棈鋹曻彅丨仡仼伀伃伹佖侒侊侚侔俍偀倢俿倞偆偰偂傔僴僘兊兤冝冾凬刕"⟩,
   ⟨0xED, 0x68, "劜劦勀勛匀匇匤卲厓厲叝\ufa0e咜咊咩哿喆坙坥垬埈埇\ufa0f"⟩,
   ⟨0xED, 0x80, "\ufa10增墲夋奓奛奝奣妤妺孖寀甯寘寬尞岦岺峵崧嵓\ufa11嵂嵭嶸嶹巐弡弴彧德忞恝悅悊惞"⟩,
   ⟨0xED, 0xA4, "惕愠惲愑愷愰憘戓抦揵摠撝擎敎昀昕昻昉昮昞昤晥晗晙\ufa12晳暙暠暲暿曺朎\uf929杦枻桒"⟩,
   ⟨0xED, 0xC8, "柀栁桄棏\ufa13楨\ufa14榘槢樰橫橆橳橾櫢櫤毖氿汜沆汯泚洄涇浯涖涬淏淸淲淼渹湜渧渼溿"⟩,
   ⟨0xED, 0xEC, "澈澵濵瀅瀇瀨炅炫焏焄煜煆煇\ufa15燁燾犱"⟩,
   ⟨0xEE, 0x40, "犾猤\ufa16獷玽珉珖珣珒琇珵琦琪琩琮瑢璉璟甁畯皂皜皞皛皦\ufa17睆劯砡硎硤硺礰\ufa18"⟩,
   ⟨0xEE, 0x62, "\ufa19\ufa1a禔\ufa1b禛竑竧\ufa1c竫箞\ufa1d絈絜綷綠緖繒罇羡\ufa1e茁荢荿菇菶葈蒴蕓"⟩,
   ⟨0xEE, 0x7E, "蕙"⟩,
   ⟨0xEE, 0x80, "蕫\ufa1f薰\ufa20\ufa21蠇裵訒訷詹誧誾諟\ufa22諶譓譿賰賴贒赶\ufa23軏\ufa24\ufa25遧"⟩,
   ⟨0xEE, 0x9A, "郞\ufa26鄕鄧釚釗釞釭釮釤釥鈆鈐鈊鈺鉀鈼鉎鉙鉑鈹鉧銧鉷鉸鋧鋗鋙鋐\ufa27鋕鋠鋓錥錡鋻"⟩,
   ⟨0xEE, 0xBE, "\ufa28錞鋿錝錂鍰鍗鎤鏆鏞鏸鐱鑅鑈閒\uf9dc\ufa29隝隯霳霻靃靍靏靑靕顗顥\ufa2a\ufa2b"⟩,
   ⟨0xEE, 0xDC, "餧\ufa2c馞驎髙髜魵魲鮏鮱鮻鰀鵰鵫\ufa2d鸙黑"⟩, ⟨0xEE, 0xEF, "ⅰⅱⅲⅳⅴⅵⅶⅷⅸⅹ"⟩,
   ⟨0xEE, 0xFA, "￤＇＂"⟩]

end Provisioning.Text.EastAsian
