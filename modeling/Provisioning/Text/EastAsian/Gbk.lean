import Provisioning.Text.EastAsian.Grid

/-!
# Extensions of GB 2312

What two extensions of GB 2312 add to it beside the unified ideographs. A row is the first byte of
a code and a cell the second.
-/

set_option autoImplicit false

namespace Provisioning.Text.EastAsian

/-- The characters other than ideographs of the first block that GBK adds to GB 2312. -/
def gbkAdditions : Grid :=
  [⟨0xA1, 0xA4, "·"⟩, ⟨0xA1, 0xAA, "—"⟩, ⟨0xA2, 0xA1, "ⅰⅱⅲⅳⅴⅵⅶⅷⅸⅹ"⟩,
   ⟨0xA6, 0xE0, "︵︶︹︺︿﹀︽︾﹁﹂﹃﹄"⟩, ⟨0xA6, 0xEE, "︻︼︷︸︱"⟩, ⟨0xA6, 0xF4, "︳︴"⟩,
   ⟨0xA8, 0x40, "ˊˋ˙–"⟩,
   ⟨0xA8, 0x45, "‥‵℅℉↖↗↘↙∕∟∣≒≦≧⊿═║╒╓╔╕╖╗╘╙╚╛╜╝╞╟╠╡╢╣╤╥╦╧╨╩╪╫╬╭╮╯╰╱╲╳▁▂▃▄▅▆▇"⟩,
   ⟨0xA8, 0x80, "█▉▊▋▌▍▎▏▓▔▕▼▽◢◣◤◥☉⊕〒〝〞"⟩, ⟨0xA8, 0xBB, "ɑ"⟩, ⟨0xA8, 0xBD, "ńň"⟩,
   ⟨0xA8, 0xC0, "ɡ"⟩, ⟨0xA9, 0x40, "〡〢〣〤〥〦〧〨〩㊣㎎㎏㎜㎝㎞㎡㏄㏎㏑㏒㏕︰￢￤"⟩,
   ⟨0xA9, 0x59, "℡㈱"⟩, ⟨0xA9, 0x5C, "‐"⟩,
   ⟨0xA9, 0x60, "ー゛゜ヽヾ〆ゝゞ﹉﹊﹋﹌﹍﹎﹏﹐﹑﹒﹔﹕﹖﹗﹙﹚﹛﹜﹝﹞﹟﹠﹡"⟩,
   ⟨0xA9, 0x80, "﹢﹣﹤﹥﹦﹨﹩﹪﹫"⟩, ⟨0xA9, 0x96, "〇"⟩,
   ⟨0xFD, 0x9C, "\uf92c\uf979\uf995\uf9e7\uf9f1"⟩,
   ⟨0xFE, 0x40, "\ufa0c\ufa0d\ufa0e\ufa0f\ufa11\ufa13\ufa14\ufa18\ufa1f\ufa20\ufa21\ufa23\ufa24"⟩,
   ⟨0xFE, 0x4D, "\ufa27\ufa28\ufa29"⟩]

/-- The characters with two bytes that GB 18030 adds to GBK, without three areas of private use. -/
def gb18030Additions : Grid :=
  [⟨0xA2, 0xAB, "\ue766\ue767\ue768\ue769\ue76a\ue76b"⟩, ⟨0xA2, 0xE3, "€\ue76d"⟩,
   ⟨0xA2, 0xEF, "\ue76e\ue76f"⟩, ⟨0xA2, 0xFD, "\ue770\ue771"⟩,
   ⟨0xA4, 0xF4, "\ue772\ue773\ue774\ue775\ue776\ue777\ue778\ue779\ue77a\ue77b\ue77c"⟩,
   ⟨0xA5, 0xF7, "\ue77d\ue77e\ue77f\ue780\ue781\ue782\ue783\ue784"⟩,
   ⟨0xA6, 0xB9, "\ue785\ue786\ue787\ue788\ue789\ue78a\ue78b\ue78c"⟩,
   ⟨0xA6, 0xD9, "\ue78d\ue78e\ue78f\ue790\ue791\ue792\ue793"⟩, ⟨0xA6, 0xEC, "\ue794\ue795"⟩,
   ⟨0xA6, 0xF3, "\ue796"⟩, ⟨0xA6, 0xF6, "\ue797\ue798\ue799\ue79a\ue79b\ue79c\ue79d\ue79e\ue79f"⟩,
   ⟨0xA7, 0xC2, "\ue7a0\ue7a1\ue7a2\ue7a3\ue7a4\ue7a5\ue7a6\ue7a7\ue7a8\ue7a9\ue7aa\ue7ab\ue7ac"⟩,
   ⟨0xA7, 0xCF, "\ue7ad\ue7ae"⟩,
   ⟨0xA7, 0xF2, "\ue7af\ue7b0\ue7b1\ue7b2\ue7b3\ue7b4\ue7b5\ue7b6\ue7b7\ue7b8\ue7b9\ue7ba\ue7bb"⟩,
   ⟨0xA8, 0x96, "\ue7bc\ue7bd\ue7be\ue7bf\ue7c0\ue7c1\ue7c2\ue7c3\ue7c4\ue7c5\ue7c6"⟩,
   ⟨0xA8, 0xBC, "\ue7c7"⟩, ⟨0xA8, 0xBF, "ǹ"⟩, ⟨0xA8, 0xC1, "\ue7c9\ue7ca\ue7cb\ue7cc"⟩,
   ⟨0xA8, 0xEA, "\ue7cd\ue7ce\ue7cf\ue7d0\ue7d1\ue7d2\ue7d3\ue7d4\ue7d5\ue7d6\ue7d7\ue7d8\ue7d9"⟩,
   ⟨0xA8, 0xF7, "\ue7da\ue7db\ue7dc\ue7dd\ue7de\ue7df\ue7e0\ue7e1"⟩, ⟨0xA9, 0x58, "\ue7e2"⟩,
   ⟨0xA9, 0x5B, "\ue7e3"⟩, ⟨0xA9, 0x5D, "\ue7e4\ue7e5\ue7e6"⟩,
   ⟨0xA9, 0x89, "〾⿰⿱⿲⿳⿴⿵⿶⿷⿸⿹⿺⿻"⟩,
   ⟨0xA9, 0x97, "\ue7f4\ue7f5\ue7f6\ue7f7\ue7f8\ue7f9\ue7fa\ue7fb\ue7fc\ue7fd\ue7fe\ue7ff\ue800"⟩,
   ⟨0xA9, 0xF0, "\ue801\ue802\ue803\ue804\ue805\ue806\ue807\ue808\ue809\ue80a\ue80b\ue80c\ue80d"⟩,
   ⟨0xA9, 0xFD, "\ue80e\ue80f"⟩, ⟨0xD7, 0xFA, "\ue810\ue811\ue812\ue813\ue814"⟩,
   ⟨0xFE, 0x50, "⺁\ue816\ue817\ue818⺄㑳㑇⺈⺋\ue81e㖞㘚㘎⺌⺗㥮㤘\ue826㧏㧟㩳㧐\ue82b\ue82c㭎㱮"⟩,
   ⟨0xFE, 0x6A, "㳠⺧\ue831\ue832⺪䁖䅟⺮䌷⺳⺶⺷\ue83b䎱䎬⺻䏝䓖䙡䙌\ue843"⟩,
   ⟨0xFE, 0x80, "䜣䜩䝼䞍⻊䥇䥺䥽䦂䦃䦅䦆䦟䦛䦷䦶\ue854\ue855䲣䲟䲠䲡䱷䲢䴓䴔䴕䴖䴗䴘䴙䶮\ue864"⟩]

end Provisioning.Text.EastAsian
