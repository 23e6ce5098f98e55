/-!
# Readings of Chinese characters

Chinese characters by the syllable that each of them is read as, without tones.
-/

namespace BuildTool.Text

/-- The syllables, each with the characters read so. -/
def hanReadings : List (String × List String) := [
  ("A", ["吖阿锕錒啊"]),
  ("Ai", [
    "哎哀唉埃娭挨溾銰锿噯鎄啀捱皑凒溰嘊敱敳皚癌騃毐昹娾欸嗳矮蔼躷濭藹譪霭靄艾伌爱砹硋隘嗌塧嫒",
    "愛碍叆暧瑷閡僾壒嬡懓薆鴱懝曖璦餲皧瞹馤礙譺鑀鱫靉"]),
  ("An", [
    "安侒垵峖桉氨庵菴谙媕萻葊痷腤鹌蓭誝鞌鞍盦諳馣盫鵪韽鶕玵啽雸儑俺唵埯铵隌揞罯銨犴岸按洝荌案",
    "胺豻堓婩晻暗貋錌闇鮟黯"]),
  ("Ang", ["肮骯卬岇昂昻枊盎醠"]),
  ("Ao", [
    "凹柪梎軪爊敖厫隞嗷嗸嶅廒滶獓蔜遨摮熬獒璈磝翱聱螯翶謷謸翺鳌鏖鰲鷔鼇抝芺袄镺媪媼襖岙扷坳垇",
    "岰拗傲奡奥奧嫯慠骜隩墺嶴懊澳薁擙鏊驁"]),
  ("Ba", [
    "丷八仈巴叭扒朳玐夿岜芭峇柭疤哵巼捌笆粑羓蚆釛釟豝鲃魞叐犮抜坺妭拔茇炦癹胈菝詙跋軷颰魃墢鼥",
    "把钯鈀靶坝弝爸垻罢耙跁鲅罷鮊覇矲霸壩灞欛吧紦"]),
  ("Bai", ["挀掰白百佰柏栢捭瓸竡粨絔摆擺襬庍拝败拜敗猈稗粺薭贁韛"]),
  ("Ban", [
    "扳攽班般颁斑搬斒頒瘢鳻螌褩癍辬阪坂岅昄板版瓪钣粄舨鈑蝂魬闆办半伴扮坢姅怑拌绊柈秚湴絆鉡靽",
    "辦瓣螁"]),
  ("Bang", ["邦垹帮捠梆浜邫幇幚縍幫鞤绑綁榜牓膀髈玤蚌傍棒谤塝搒稖蒡蜯磅镑艕謗鎊"]),
  ("Bao", [
    "勹包佨孢苞枹胞笣煲龅蕔褒襃闁齙窇嫑雹薄宝怉饱保鸨宲珤堡堢媬葆寚飹飽褓駂鳵緥鴇賲藵寳寶靌勽",
    "报抱豹趵铇菢蚫袌報鉋鲍靤骲暴髱虣鮑儤曓爆忁鑤"]),
  ("Bei", [
    "卑杯盃桮悲揹椑碑鹎藣鵯北鉳贝孛狈貝邶备昁牬苝背郥钡俻倍悖狽被偝偹梖珼鄁備僃惫棓焙琲軰辈愂",
    "碚禙蓓蛽犕褙誖鞁骳輩鋇憊糒鞴鐾呗唄"]),
  ("Ben", ["奔泍贲栟犇锛錛本苯奙畚翉楍坋坌倴捹桳渀笨逩撪獖輽"]),
  ("Beng", ["伻祊奟崩绷絣閍傰嵭痭嘣綳甭埄埲菶琣琫繃鞛泵迸逬塴甏镚蹦鏰揼"]),
  ("Bi", [
    "屄偪毴逼楅榌豍螕鵖鲾鎞鰏荸鼻嬶匕比夶朼佊吡妣沘疕芘彼柀秕俾笔粃舭啚筆鄙箄聛貏币必毕闭佖坒",
    "庇诐邲咇妼怭怶枈畀畁苾哔柲毖珌疪荜陛毙狴畢笓粊袐铋婢庳敝梐萆萞閇閉堛弻弼愊愎湢皕禆筚詖貱",
    "賁赑嗶彃滗滭煏痹痺睤腷蓖蓽蜌裨跸鉍閟飶幣弊熚獙碧箅箆綼蔽鄪馝幤潷獘罼襅駜髲壁嬖廦篦篳縪薜",
    "觱避鮅斃濞臂蹕髀奰璧鄨鏎饆繴襞襣鞸韠魓躃躄驆贔鐴鷝鷩鼊"]),
  ("Bian", [
    "边辺砭笾揙猵编萹煸牑甂箯編蝙獱邉鍽鳊邊鞭鯾鯿籩贬扁窆匾貶惼碥稨褊糄鴘藊卞弁忭抃汳汴苄釆变",
    "峅玣便変昪覍徧缏遍閞辡緶艑辧辨辩辫辮辯變炞"]),
  ("Biao", [
    "灬杓标飑骉髟淲彪猋颩墂幖滮颮骠標熛膘瘭磦镖飙飚儦颷瀌藨謤爂臕贆鏢穮镳飆飇飈飊驃鑣驫表婊脿",
    "裱諘褾錶檦俵摽鳔鰾"]),
  ("Bie", ["憋蟞鳖鱉鼈虌龞癿別别莂蛂徶襒蹩瘪癟彆"]),
  ("Bin", ["汃邠玢砏宾彬梹傧斌椕滨缤槟瑸豩賓賔镔儐濒濱濵虨豳檳璸瀕霦繽鑌顮摈殡膑髩擯鬂殯臏髌鬓髕鬢氞"]),
  ("Bing", [
    "冫仌仒氷冰兵掤鋲丙邴陃怲抦秉苪昞昺柄炳饼眪窉蛃棅禀稟鈵鉼鞆餅餠鞞并並併幷垪庰倂栤病竝偋傡",
    "寎摒誁鮩靐"]),
  ("Bo", [
    "癶帗拨波癷玻剝剥哱盋砵袚钵饽紴缽菠袰溊碆鉢僠嶓撥播蕃餑鮁蹳驋鱍仢伯犻肑驳帛狛瓝苩侼勃胉郣",
    "亳挬浡瓟秡袯钹铂淿脖舶袹博渤葧鹁愽搏猼鈸鉑馎鲌僰煿牔箔膊艊蔔馛駁踣鋍镈馞駮襏豰嚗懪礡簙鎛",
    "餺鵓犦髆髉欂襮礴鑮跛箥簸孹擘檗糪譒蘗卜啵萡"]),
  ("Bu", [
    "峬庯逋钸晡鈽誧鳪轐醭卟补哺捕喸補鵏鸔不布佈吥步咘怖抪歨歩柨钚勏埔埗悑捗荹部埠瓿鈈廍蔀踄郶",
    "餔篰餢簿"]),
  ("Ca", ["嚓擦攃礤礸遪囃"]),
  ("Cai", ["偲猜才材财財裁纔毝采倸啋婇寀彩採睬跴綵踩埰菜棌蔡縩"]),
  ("Can", ["参參叄飡骖叅喰湌傪嬠餐爘驂残蚕惭殘慚蝅慙蠶蠺惨朁慘憯穇篸黪黲灿粲摻儏澯薒燦璨謲"]),
  ("Cang", ["仓仺伧沧苍鸧倉舱傖嵢滄獊蒼濸艙螥鶬藏欌鑶賶"]),
  ("Cao", ["撡操糙曺曹嘈嶆漕蓸槽褿艚螬鏪艸草愺懆騲肏鄵襙艹"]),
  ("Ce", ["冊册侧厕恻拺测荝敇畟側厠笧粣萗廁惻測策萴筞筴蓛墄箣憡簎"]),
  ("Cen", ["嵾岑涔笒"]),
  ("Ceng", ["曽噌层曾層嶒竲驓蹭"]),
  ("Cha", ["叉扠杈肞臿挿偛嗏插揷馇銟锸艖疀鍤餷秅垞查茬茶嵖搽猹靫槎詧察碴檫衩蹅镲鑔奼汊岔侘诧姹差紁詫"]),
  ("Chai", ["芆拆钗釵犲侪柴豺祡喍儕齜茝虿袃訍瘥蠆囆"]),
  ("Chan", [
    "辿觇梴掺搀覘裧鉆鋓幨襜攙婵谗孱棎湹禅馋煘缠僝獑蝉誗鋋儃嬋廛潹潺緾澶磛禪毚鄽镡瀍蟬儳劖蟾酁",
    "嚵壥巉瀺欃纏纒躔镵艬讒鑱饞产旵丳斺浐剗谄啴產産铲阐蒇剷嵼摌滻嘽幝蕆諂閳骣燀簅冁繟譂辴鏟闡",
    "囅灛讇忏刬硟摲懴颤懺羼韂顫"]),
  ("Chang", [
    "伥昌倀娼淐猖菖阊晿椙琩裮锠錩閶鲳鯧鼚仧仩兏肠苌镸尝偿常徜瓺萇甞腸嘗塲嫦瑺膓鋿償嚐鲿鏛鱨厂",
    "场昶惝場敞僘厰廠氅鋹怅畅倡鬯唱悵焻瑒暢畼誯韔蟐长長"]),
  ("Chao", ["抄弨怊欩钞訬焯超鈔勦牊晁巢巣朝鄛鼌漅嘲樔潮窲罺轈鼂謿吵炒眧焣煼麨巐仦仯耖觘"]),
  ("Che", ["车伡車俥砗唓莗硨蛼扯偖撦屮彻坼迠烢聅掣硩頙徹撤澈勶瞮爡"]),
  ("Chen", [
    "抻郴捵琛嗔綝瞋諃賝縝謓尘臣忱沉辰陈迧茞宸莀莐陳敐晨梣訦谌軙愖揨鈂煁蔯塵樄瘎霃螴諶薼麎曟鷐",
    "趻硶碜墋夦磣踸鍖贂醦衬疢龀趁趂榇齓齔儭嚫谶櫬襯讖阷"]),
  ("Cheng", [
    "泟柽爯棦浾琤称偁蛏湞赪僜憆摚稱靗撐撑緽橕瞠赬頳檉竀罉穪蟶鏳鏿鐣饓丞成朾呈承枨诚郕乗城娍宬",
    "峸洆荿乘埕挰晟珹脀掁珵碀窚脭铖堘惩棖椉程筬絾裎塍塖溗誠畻酲鋮憕澂澄橙檙鯎瀓懲騬侱徎悜逞骋",
    "庱睈騁秤牚"]),
  ("Chi", [
    "吃妛侙哧彨胵蚩鸱瓻眵笞粚喫訵嗤媸摛痴絺噄瞝誺螭鴟鵄癡魑齝攡彲黐弛池驰迟岻茌持竾荎歭蚳赿筂",
    "貾遅趍遟馳箎墀漦踟遲篪謘尺叺呎肔侈卶齿垑胣恥耻蚇袳豉欼歯袲裭鉹褫齒彳叱斥杘灻赤饬抶勅恜炽",
    "勑翄翅敕烾痓啻湁硳飭傺痸腟跮鉓雴憏瘈翤遫銐慗瘛翨熾懘趩饎鶒鷘麶"]),
  ("Chong", ["充冲忡沖茺浺珫翀舂嘃摏徸憃憧衝罿艟蹖虫崇崈隀漴褈緟蝩蟲爞宠寵铳揰銃"]),
  ("Chou", [
    "抽搊瘳篘犨犫仇怞俦帱栦惆紬绸菗椆畴絒愁皗稠筹裯酧酬綢踌儔雔嚋嬦幬懤薵燽雠疇籌躊醻讎讐丑丒",
    "吜杻杽侴偢瞅醜矁魗臭臰遚殠"]),
  ("Chu", [
    "出岀初摴樗貙齣刍除芻厨滁蒢豠锄媰耡蒭蜍趎鉏雏犓蕏廚篨鋤橱幮櫉藸蟵躇雛櫥蹰鶵躕処杵础椘储楮",
    "楚褚濋儲檚璴礎齭齼亍处竌怵拀绌豖欪竐俶敊畜埱珿絀處傗琡鄐搐滀蓫触踀閦儊嘼諔憷斶歜臅黜觸矗",
    "榋橻歘"]),
  ("Chuai", ["揣搋膗啜膪踹"]),
  ("Chuan", ["巛川氚穿剶猭瑏传舡舩船遄傳椽暷篅輲舛荈喘歂僢踳汌串玔钏釧賗鶨"]),
  ("Chuang", ["刅疮窓窗牎摐牕瘡窻床牀噇幢闯傸摤磢闖创怆刱剏剙凔創愴"]),
  ("Chui", ["吹炊龡垂倕埀陲捶菙圌搥棰腄槌锤箠錘鎚顀"]),
  ("Chun", ["旾杶春萅堾媋暙椿槆瑃箺蝽橁輴櫄鰆鶞纯陙唇浱純莼淳脣湻犉滣蒓鹑漘蓴醇醕錞鯙鶉偆萶惷睶賰蠢"]),
  ("Chuo", ["逴踔戳辶辵娕娖婥惙涰绰腏辍酫綽趠輟龊擉磭繛歠嚽齪鑡"]),
  ("Ci", [
    "呲疵趀偨跐縒骴髊蠀齹词珁垐柌祠茈茨瓷詞辝慈甆辞磁雌鹚糍辤飺餈嬨濨薋鴜礠辭鶿鷀此佌泚玼皉鮆",
    "朿次伺佽刺刾庛茦栨莿絘蛓赐螆賜"]),
  ("Cong", [
    "匆囪囱苁忩枞茐怱悤棇焧葱漗聡蓯蔥骢暰樅樬熜瑽璁緫聦聪瞛篵聰蟌鍯繱鏦騘驄从丛従婃孮徖從悰淙",
    "琮慒漎潀潨誴賨賩樷藂叢灇欉爜憁謥"]),
  ("Cou", ["凑湊腠辏輳"]),
  ("Cu", ["粗觕麁麄麤徂殂促猝脨媨瘄蔟誎趗噈憱踧醋瘯簇縬蹙鼀蹴蹵顣"]),
  ("Cuan", ["汆撺鋑镩蹿攛躥鑹櫕巑欑穳窜殩熶篡簒竄爨"]),
  ("Cui", [
    "崔催凗缞墔嶉慛摧榱獕槯磪縗鏙漼璀趡皠伜忰疩倅粋紣翆脃脆啐啛悴淬萃毳焠脺瘁粹綷翠膵膬濢竁襊",
    "顇臎乼"]),
  ("Cun", ["邨村皴踆澊竴膥存侟拵刌忖寸吋籿"]),
  ("Cuo", ["搓瑳遳磋撮蹉醝虘嵯嵳痤睉矬蒫蔖鹾鹺躦脞剉剒厝夎挫莝莡措逪斮棤锉蓌错銼錯"]),
  ("Da", [
    "咑哒耷荅笚嗒搭褡噠撘鎝达迏迖迚呾妲怛沓炟羍荙畗剳匒畣笪逹溚答詚達靼薘鞑燵蟽鎉躂鐽韃龖龘打",
    "大亣汏眔垯跶瘩墶繨"]),
  ("Dai", [
    "呆呔獃懛歹逮傣代轪侢垈岱帒甙绐迨骀带待怠柋殆玳贷帯軑埭帶紿蚮袋軚貸軩瑇廗叇曃緿鴏戴艜黛簤",
    "蹛瀻霴襶黱靆鮘"]),
  ("Dan", [
    "丹妉单担単眈砃耼耽郸聃躭單媅殚瘅匰箪褝鄲頕儋勯擔殫甔癉襌簞聸伔刐抌玬瓭胆衴疸紞掸赕亶撢撣",
    "澸黕膽黮旦但帎沊泹狚诞柦疍啖啗弹惮淡萏蛋啿弾氮腅蜑觛窞誕僤噉馾髧嘾彈憚憺澹禫蓞駳鴠癚嚪繵",
    "贉霮饏"]),
  ("Dang", [
    "当珰裆铛筜當噹澢璫襠簹艡蟷鐺挡党谠擋譡黨攩灙欓讜氹凼圵宕砀垱荡档菪婸愓瓽逿嵣雼潒碭儅瞊蕩",
    "趤壋檔璗盪礑簜蘯闣"]),
  ("Dao", [
    "刀刂叨忉朷氘舠釖鱽魛捯导岛陦島捣祷禂搗隝嶋嶌槝導隯壔嶹擣蹈禱到倒悼盗菿椡盜道稲箌翢噵稻艔",
    "衜檤衟燾翿軇瓙纛"]),
  ("De", ["嘚恴得淂悳惪棏锝徳德鍀的脦"]),
  ("Den", ["扥扽"]),
  ("Deng", ["灯登豋噔嬁燈璒竳簦艠覴蹬朩等戥邓凳鄧隥墱嶝瞪磴镫櫈鐙"]),
  ("Di", [
    "地氐仾低奃彽袛啲埞羝隄堤趆滴镝磾鍉鞮廸狄籴苖迪唙敌涤荻梑笛觌靮滌馰髢嘀嫡翟蔋蔐頔敵樀篴嚁",
    "藡豴蹢鬄鏑糴覿鸐厎坘诋邸阺呧坻底弤抵拞茋柢牴砥掋菧觝詆軧聜骶鯳坔弟旳杕玓怟枤俤帝埊娣递逓",
    "偙啇梊焍珶眱祶第菂谛釱媂棣渧睇缔蒂僀禘腣遞鉪墑墬摕碲蔕蝃遰慸甋締嶳諦踶螮"]),
  ("Dia", ["嗲"]),
  ("Dian", [
    "敁掂傎厧嵮滇槇槙瘨颠蹎巅顚顛癫巓巔攧癲齻典奌点婰猠敟椣跕碘蒧蕇踮點嚸电佃甸阽坫店垫扂玷钿",
    "婝惦淀奠琔殿蜔電墊壂橂橝澱靛癜簟驔"]),
  ("Diao", [
    "刁叼汈刟虭凋奝弴彫蛁琱貂碉鳭殦瞗雕鮉鲷簓鼦鯛鵰扚屌弔伄吊钓窎訋调掉釣铞铫鈟竨蓧銱雿魡調瘹",
    "窵鋽藋鑃"]),
  ("Die", [
    "爹跌褺苵迭垤峌恎挕昳绖胅瓞眣耊戜谍喋堞幉惵揲畳絰耋臷詄趃镻叠楪殜牃牒嵽碟蜨褋艓蝶疂諜蹀鲽",
    "曡疉鰈疊氎哋眰"]),
  ("Ding", ["丁仃叮帄玎疔盯钉耵虰酊釘靪奵顶頂鼎嵿鼑濎薡鐤订忊饤矴定訂飣啶萣椗腚碇锭碠聢蝊鋌錠磸顁"]),
  ("Diu", ["丟丢铥銩"]),
  ("Dong", [
    "东冬咚岽東苳昸氡倲鸫埬娻崠崬涷笗菄徚氭蝀鮗鼕鯟鶇鶫董墥嬞懂箽蕫諌动冻侗垌姛峒恫挏栋洞胨迵",
    "凍戙胴動硐棟湩絧腖働駧霘"]),
  ("Dou", ["吺唗兜兠蔸橷篼乧阧抖枓钭陡唞蚪鈄斗豆郖浢荳逗饾鬥梪毭脰酘痘閗窦鬦餖斣闘竇鬪鬭鬬"]),
  ("Du", [
    "都厾剢阇嘟督醏闍毒独涜读渎椟牍犊裻読蝳獨錖凟匵嬻瀆櫝殰牘犢瓄皾騳黩讀豄贕韣髑鑟韇韥黷讟笃",
    "堵帾琽赌睹覩賭篤芏妒杜肚妬度荰秺渡靯镀螙殬鍍蠧蠹"]),
  ("Duan", ["耑偳剬媏端褍鍴短段断塅缎葮椴煅瑖腶碫锻緞毈簖鍛斷躖籪"]),
  ("Dui", ["垖堆塠嵟痽磓鴭鐜頧队对兊兌兑対祋怼陮隊碓綐對憞憝濧薱懟瀩譈襨鐓譵"]),
  ("Dun", ["吨惇敦蜳墩墪撴獤噸撉橔犜礅镦蹲蹾驐盹趸躉伅囤庉沌炖盾砘逇钝顿遁鈍楯頓碷遯潡燉踲"]),
  ("Duo", [
    "多夛咄哆畓剟崜掇敠敪毲裰嚉夺铎剫敓敚喥痥鈬奪凙踱鮵鐸朵朶哚垛垜挅挆埵缍椯趓躱躲綞亸軃嚲奲",
    "刴剁陊陏饳尮柮桗堕舵惰跢跥跺飿墮嶞憜墯鵽"]),
  ("E", [
    "妸妿娿婀屙痾讹吪囮迗俄娥峨峩涐莪珴訛皒睋鈋锇鹅蛾磀誐鋨頟额魤額鵝鵞譌鰪枙砈頋噁騀鵈厄屵戹",
    "歺岋阨呃扼苊阸呝砐轭咢咹垩姶峉匎恶砨蚅饿偔卾堊悪硆谔軛鄂堨堮崿惡愕湂萼豟軶遌遏鈪廅搤搹琧",
    "腭詻僫蝁锷魥鹗蕚遻頞颚餓噩擜覨諤閼餩鍔鳄歞顎礘櫮鰐鶚讍齃鑩齶鱷"]),
  ("Ei", ["诶誒"]),
  ("En", ["奀恩蒽煾峎摁"]),
  ("Eng", ["鞥"]),
  ("Er", [
    "儿而児侕兒陑峏洏荋栭胹唲袻鸸粫聏輀鲕隭髵鮞鴯轜厼尒尓尔耳迩洱饵栮毦珥铒爾餌駬薾邇趰二弍弐",
    "刵咡贰貮衈貳誀鉺樲"]),
  ("Fa", ["发沷発發彂醱乏伐姂垡浌疺罚茷阀栰笩傠筏瞂罰閥罸橃藅佱法砝鍅灋珐琺髪蕟髮"]),
  ("Fan", [
    "帆忛番勫噃嬏幡憣旙旛繙翻藩轓颿籓飜鱕凡凢凣氾匥杋柉矾籵钒舤烦舧笲棥渢煩緐墦樊橎燔璠膰薠繁",
    "襎羳蹯瀪瀿礬蘩鐇鐢蠜鷭反払仮返釩犯奿汎泛饭范贩畈訉軓婏梵盕笵販軬飯飰滼嬎範"]),
  ("Fang", ["匚方邡坊汸芳枋牥钫淓蚄鈁錺鴋防妨房肪埅鲂魴鰟仿访纺昉昘瓬眆倣旊紡舫訪髣鶭放趽堏"]),
  ("Fei", [
    "飞妃非飛啡婓婔渄绯菲扉暃猆靟裶緋蜚霏鲱餥馡騑騛飝肥淝腓蜰蟦朏胐匪诽奜悱斐棐榧翡蕜誹篚吠芾",
    "废杮沸狒肺昲胇费俷剕厞疿陫屝萉廃費痱镄廢曊癈鼣濷櫠鯡鐨靅"]),
  ("Fen", [
    "分吩帉纷芬昐氛哛竕衯兺紛翂兝棻訜躮酚鈖雰朆餴饙坟妢岎汾朌枌炃肦羒蚠蚡梤棼焚蒶馚隫墳幩濆蕡",
    "魵橨燌燓豮鼢羵鼖豶轒鐼馩黂粉黺份弅奋忿秎偾愤粪僨憤瞓奮膹糞鲼瀵鱝"]),
  ("Feng", [
    "丰风仹凨凬妦沣沨凮枫封疯盽砜風峯峰偑桻烽琒崶猦葑锋楓犎蜂瘋碸僼篈鄷鋒檒闏豐鎽鏠酆寷灃蘴霻",
    "蠭靊飌麷冯夆捀浲逢堸溄馮摓漨綘艂讽覂唪諷凤奉甮俸湗焨煈缝赗鳯鳳鴌縫賵"]),
  ("Fiao", ["覅"]),
  ("Fo", ["仏坲梻佛"]),
  ("Fou", ["紑裦缶否妚缹缻殕雬鴀"]),
  ("Fu", [
    "夫伕邞呋妋姇玞肤怤柎砆荂衭娐尃荴旉紨趺麸痡稃跗鈇筟綒鄜孵豧敷膚鳺麩糐麬麱懯乀巿弗伏凫甶冹",
    "刜孚扶芙芣咈岪彿怫拂服枎泭绂绋苻茀俘垘柫氟洑炥玸畉畐祓罘茯郛韨哹垺栿浮砩莩蚨匐桴涪烰琈符",
    "笰紱紼翇艴菔虙袱幅棴絥罦葍福粰綍艀蜉辐鉘鉜颫鳧榑稪箙韍幞澓蝠髴鴔諨踾輻鮄癁襆鮲黻襥鵩鶝呒",
    "抚甫乶府弣拊斧俌俛胕郙鳬俯釜釡捬辅椨焤盙腑滏蜅腐輔嘸撨撫頫鬴簠黼阝父讣付妇负附咐坿竎阜驸",
    "复峊祔訃負赴蚥袝陚偩冨副婦蚹傅媍富復秿萯蛗覄詂赋椱缚腹鲋禣複褔赙緮蕧蝜蝮賦駙嬔縛輹鮒賻鍑",
    "鍢鳆覆馥鰒酜"]),
  ("Ga", ["旮嘎嘠钆尜釓噶錷尕玍尬魀"]),
  ("Gai", ["侅该郂陔垓姟峐荄晐赅畡祴絯該豥賅賌忋改絠丐乢匃匄阣杚钙盖摡溉葢鈣隑戤概槩蓋漑槪瓂"]),
  ("Gan", [
    "甘忓芉迀攼杆玕肝坩泔矸苷乹柑竿疳酐粓亁凲尲尴筸漧鳱尶尷魐仠皯秆衦赶敢桿笴稈感澉趕橄擀簳鰔",
    "鳡鱤干旰汵盰绀倝凎淦紺詌骭幹榦檊贑赣贛灨"]),
  ("Gang", ["冈罓冮刚纲肛岡牨疘矼缸钢剛罡堈掆釭棡犅堽綱罁鋼鎠岗崗港杠焵焹筻槓戅戆"]),
  ("Gao", [
    "皋羔羙高皐髙臯滜槔睾膏槹橰篙糕餻櫜韟鷎鼛鷱夰杲菒稁搞缟暠槀槁稾稿镐縞藁檺藳吿告勂诰郜峼祮",
    "祰锆筶禞誥鋯"]),
  ("Ge", [
    "戈仡圪犵戓肐牫疙咯牱哥胳袼鸽割搁彁滒戨歌鴐鴚擱謌鴿鎶呄佮匌挌茖阁革敋格鬲愅臵葛蛒裓隔嗝塥",
    "滆觡搿槅膈閣閤獦镉鞈韐骼諽輵鮯櫊韚轕鞷騔哿舸嗰个各虼個硌铬箇鉻"]),
  ("Gei", ["给給"]),
  ("Gen", ["根跟哏艮亘亙茛揯搄"]),
  ("Geng", ["刯庚畊浭耕菮椩焿絚赓鹒緪縆羮賡羹鶊郠哽埂峺挭绠耿莄梗綆鲠骾鯁更堩暅"]),
  ("Gong", ["工弓公厷功攻杛供糼肱宫宮恭蚣躬龚匑塨幊愩觥躳熕匔碽髸觵龏龔廾巩汞拱拲栱珙輁鞏共贡羾貢莻慐"]),
  ("Gou", [
    "勾佝沟钩袧缑鈎溝鉤緱褠篝簼鞲韝芶岣狗苟枸玽耇耉笱耈蚼豿坸构诟购垢姤茩冓够夠訽媾彀搆詬遘雊",
    "構煹觏撀覯購"]),
  ("Gu", [
    "估呱咕姑孤沽泒苽柧轱唂罛鸪笟菇菰蛄蓇觚軱軲辜酤鈲箍箛嫴篐橭鮕鴣鶻夃古扢汩诂谷股牯骨唃罟羖",
    "逧钴傦啒淈脵蛊蛌尳愲詁馉鹄榾毂鈷鼓鼔嘏榖皷鹘穀縎糓薣濲皼臌轂餶瀔盬瞽蠱固故凅顾堌崓崮梏牿",
    "棝祻雇痼稒锢僱錮鲴鯝顧"]),
  ("Gua", ["瓜刮胍栝鸹歄煱颪趏劀緺踻銽颳鴰騧冎叧剐剮寡卦坬诖挂啩掛罣絓罫褂詿"]),
  ("Guai", ["乖掴摑拐枴柺箉夬叏怪恠"]),
  ("Guan", [
    "关观官冠覌倌棺蒄窤関瘝癏観闗鳏關鰥觀鱞莞馆琯痯筦管輨舘錧館鳤毌丱贯泴悺惯掼涫貫悹祼慣摜潅",
    "遦樌盥罆雚躀鏆灌爟瓘矔礶鹳罐鑵鱹鸛"]),
  ("Guang", ["光灮侊炗炚炛咣垙姯洸茪桄烡珖胱僙輄銧黆广広犷廣獷臩俇逛臦撗欟"]),
  ("Gui", [
    "归圭妫龟规邽皈茥闺帰珪胿亀硅窐袿規媯椝瑰郌嫢摫閨鲑嬀槻槼螝璝瞡膭鮭龜巂歸鬶騩瓌鬹櫷宄朹轨",
    "庋佹匦诡陒垝姽恑攱癸軌鬼庪祪匭晷湀蛫觤詭厬簋蟡攰刽刿昋柜贵桂桧椢猤筀貴蓕跪匱劊劌嶡撌槶檜",
    "瞶禬簂櫃癐襘鳜鞼鱖鱥"]),
  ("Gun", ["丨衮惃绲袞辊滚蓘滾緄蔉磙輥鲧鮌鯀棍睔睴璭謴"]),
  ("Guo", [
    "呙咼埚郭啯堝崞聒鈛锅墎瘑嘓彉濄蝈鍋彍蟈囯囶囻国圀國帼腘幗慖漍聝蔮膕虢馘果惈淉猓菓馃椁褁槨",
    "粿綶蜾裹輠錁餜鐹过過"]),
  ("Ha", ["哈铪蛤奤"]),
  ("Hai", ["咍咳嗨孩頦骸海胲烸塰酼醢亥妎骇害氦嗐餀駭駴饚嚡"]),
  ("Han", [
    "佄顸哻蚶酣頇嫨谽憨馠歛鼾邗含邯函咁肣凾虷唅圅娢浛崡晗梒涵焓琀寒嵅韩甝筨蜬澏鋡魽韓丆厈罕浫",
    "喊蔊豃鬫汉屽扞汗闬旱岾垾悍捍涆猂莟晘焊菡釬閈皔睅傼蛿颔馯撖漢蜭暵熯銲鋎憾撼翰螒頷顄駻譀雗",
    "瀚蘫鶾兯爳"]),
  ("Hang", ["夯苀迒斻杭垳绗笐航蚢颃貥筕絎頏魧沆"]),
  ("Hao", [
    "茠蒿嚆薅薧毜竓蚝毫椃嗥獆貉噑獔豪嘷獋諕儫嚎壕濠籇蠔譹好郝号昊昦秏哠恏悎浩耗晧淏傐皓鄗滈聕",
    "號暤暭澔皜皞曍皡薃皥鎬颢灏顥鰝灝"]),
  ("He", [
    "诃呵抲欱喝訶嗬蠚禾合纥何劾咊和姀河郃峆曷柇狢盇籺紇阂饸哬敆核盉盍荷啝涸渮盒秴菏萂蚵龁惒粭",
    "訸颌楁毼澕詥貈鉌阖鲄熆鹖麧頜篕翮螛魺礉闔鞨齕覈鶡皬鑉龢佫垎贺袔隺寉焃賀嗃煂碋熇褐赫鹤穒翯",
    "壑癋謞燺爀鶮鶴靍靎鸖靏"]),
  ("Hei", ["黒黑嘿潶"]),
  ("Hen", ["拫痕鞎佷很狠詪恨"]),
  ("Heng", ["亨哼悙涥啈脝姮恆恒桁烆珩胻鸻横橫衡鴴鵆蘅鑅堼噷"]),
  ("Hong", [
    "叿吽呍灴轰哄訇烘軣揈渹焢硡谾薨輷嚝鍧轟仜弘妅红吰宏汯玒纮闳宖泓玜苰垬娂洪竑紅荭虹浤紘翃耾",
    "硔紭谹鸿渱竤粠葒葓鈜閎綋翝谼潂鉷鞃魟鋐彋蕻霐黉霟鴻黌唝晎嗊讧訌閧撔澋澒銾闂鬨闀"]),
  ("Hou", ["齁侯矦鄇喉帿猴葔瘊睺篌糇翭骺翵鍭餱鯸吼犼后郈厚垕後洉逅候堠豞鲎鲘鮜鱟"]),
  ("Hu", [
    "乎乯匢虍呼垀忽昒曶泘苸恗烀轷匫唿惚淴虖軤嘑寣滹雐幠戯歑膴謼囫抇弧狐瓳胡壶壷斛焀喖壺媩搰湖",
    "猢絗葫楜煳瑚嘝蔛鹕槲箶糊蝴衚魱縠螜醐頶觳鍸餬鵠瀫鬍鰗鶘鶦乕汻虎浒俿唬萀琥虝滸錿鯱乥互弖戶",
    "户戸冱冴芐帍护沍沪岵怙戽昈枑怘祜笏粐婟扈瓠楛嗀綔鄠雽嫭嫮摢滬蔰槴熩鳸簄鍙嚛鹱護鳠韄頀鱯鸌"]),
  ("Hua", [
    "花芲哗砉埖婲椛硴嘩糀誮蒊錵蘤华姡骅華釪釫铧滑猾搳撶磆蕐螖鋘譁鏵驊鷨化划夻杹枠画话崋桦婳畫",
    "嬅畵觟話劃摦樺嫿槬澅諙諣黊繣舙譮"]),
  ("Huai", ["怀徊淮槐褢踝懐褱懷瀤櫰耲蘹坏咶壊壞蘾"]),
  ("Huan", [
    "还還欢犿歓鴅鵍酄嚾懽獾歡讙貛驩环郇峘洹狟荁桓萈萑寏絙雈綄羦貆鉮锾圜嬛寰澴缳阛環豲鍰镮鹮糫",
    "繯轘鐶闤鬟瓛缓緩攌幻奂肒奐宦唤换浣涣烉患梙焕逭喚喛嵈愌換渙痪睆煥瑍豢漶瘓槵鲩擐澣藧鯇鯶鰀"]),
  ("Huang", [
    "巟肓荒衁朚塃慌皇偟凰隍黄喤堭媓崲徨惶湟葟遑黃楻煌瑝墴潢獚锽熿璜篁篊艎蝗癀磺穔諻簧蟥鍠餭鳇",
    "趪韹鐄騜鰉鱑鷬怳恍炾宺晃晄奛谎幌詤熀縨謊櫎兤愰滉榥曂皝鎤皩"]),
  ("Hui", [
    "灰灳诙咴恢拻挥洃袆晖烣豗婎媈揮翚辉隓暉楎煇禈詼幑睳褘噅撝噕翬輝麾徽隳瀈蘳鰴囘回囬佪廻廽恛",
    "洄茴迴烠蚘逥痐蛔蛕蜖鮰虺悔毀毁毇檓燬譭卉屶屷汇会讳泋哕浍绘芔荟诲恚恵烩贿彗晦硊秽喙惠湏絵",
    "缋翙阓匯彙彚會滙詯賄颒僡嘒瘣蔧誨圚寭慧憓暳槥潓蕙噦嬒徻橞殨澮濊獩璤薈薉諱頮檅燴璯篲藱餯嚖",
    "瞺穢繢蟪櫘繪翽譓儶鏸闠孈鐬靧譿顪懳"]),
  ("Hun", ["昏昬荤婚惛涽阍棔殙葷睧碈睯閽忶浑珲梡馄堚渾琿魂餛繉轋鼲诨俒倱圂掍混焝溷慁觨諢"]),
  ("Huo", [
    "吙剨耠锪劐嚄鍃豁攉騞佸活秮秳火伙邩钬鈥漷夥沎或货咟俰捇眓获閄掝祸貨惑旤楇湱禍蒦奯濩獲霍檴",
    "謋矆穫镬嚯瀖耯艧藿蠖嚿曤臛癨矐鑊靃"]),
  ("Ji", [
    "丌讥击刉叽饥乩刏圾机玑肌芨矶鸡枅咭姫剞唧姬屐积笄飢基喞嵆嵇敧朞犄筓缉赍勣嗘畸稘跡跻鳮僟毄",
    "箕銈嘰撃槣樭畿稽緝觭賫躸齑墼機激璣禨積襀錤隮擊磯簊績羁賷鄿櫅耭蹟雞譏韲鶏譤鐖饑癪躋鞿鷄齎",
    "羇虀鑇覉鑙齏羈鸄覊亼亽及伋吉岌彶忣汲级即极皀亟佶郆卽叝姞急狤皍笈級堲揤疾觙偮卙庴焏谻戢棘",
    "極殛湒集塉嫉愱楫蒺趌辑槉耤膌銡嶯潗濈瘠箿蕀蕺踖鹡橶檝螏輯藉襋蹐鍓艥籍轚鏶霵鶺鷑躤雦雧几己",
    "丮妀犱泲虮挤脊掎鱾幾戟嵴麂魢撠擠穖蟣魕彐彑旡计记伎纪坖妓忌技芰际剂季哜垍峜既洎济紀茍茤荠",
    "計迹剤紒继觊記偈寂寄徛悸旣梞済祭绩塈惎臮葪蔇兾痵継蓟裚際鬾暨漃漈禝稩穊誋跽霁鲚暩稷諅鲫冀",
    "劑曁穄薊髻嚌檕濟繋罽薺覬檵鵋齌廭懻癠穧蘎骥鯚瀱繼蘮鱀蘻霽鰶鰿鱭驥"]),
  ("Jia", [
    "加乫夹伽夾抸佳拁泇茄迦枷毠浃珈埉家浹痂梜笳耞袈傢猳葭跏犌腵鉫嘉鉿镓糘豭貑鎵麚圿忦扴郏荚郟",
    "唊恝莢戛铗戞蛱裌颊蛺跲餄鋏頬頰鴶鵊甲岬玾胛斚贾钾假婽徦斝椵賈鉀榎槚瘕檟价驾架嫁幏榢價稼駕"]),
  ("Jian", [
    "戋奸尖幵坚歼间冿戔玪肩艰姦姧兼监堅惤猏笺菅菺豜湔牋犍缄葌間搛椷椾煎瑊睷碊缣蒹豣監箋樫熞緘",
    "蕑蕳鲣鳽鹣熸篯縑艱鞬餰馢麉瀐鞯鳒殱礛覸鵳瀸鐧櫼殲鶼韀鰹囏虃鑯韉囝拣枧俭柬茧倹挸捡笕减剪梘",
    "检湕趼堿揀揃検減睑硷裥詃锏弿暕瑐筧简絸谫彅戩戬碱儉翦撿檢藆襇襉謇蹇瞼礆簡繭謭鬋鰎鹸瀽蠒鐗",
    "劗鹻籛譾襺鹼见件見建饯剑洊牮荐贱俴健剣栫涧珔舰剱徤渐袸谏釼寋旔楗毽溅腱臶葥践賎鉴键僭榗漸",
    "蔪劍劎墹澗箭糋諓賤趝踐踺劒劔薦諫鋻鍵餞瞷磵礀螹鍳擶濺繝瀳覵鏩艦譼轞鐱鑑鑒鑬鑳橺"]),
  ("Jiang", [
    "江姜将茳浆畕豇將葁畺摪翞僵漿螀壃缰薑橿殭螿鳉疅礓疆繮韁鱂讲奖桨傋蒋奨奬蔣槳獎耩膙講顜匞匠",
    "夅弜降洚绛弶袶絳酱勥滰嵹摾彊犟糡醤糨醬櫤謽"]),
  ("Jiao", [
    "艽芁交郊姣娇峧浇茭茮骄胶椒焦蛟跤僬嘄虠鲛嬌嶕嶣憍澆膠蕉燋膲礁穚鮫鵁鹪簥蟭轇鐎驕鷦鷮臫角佼",
    "侥恔挢狡绞饺捁晈烄笅皎矫脚铰搅湫絞剿敫湬煍腳賋僥摷暞踋鉸餃儌劋徺撟撹隦憿敽敿燞缴曒璬矯皦",
    "蟜繳譑孂纐攪灚鱎叫呌峤挍訆珓窌轿较敎教窖滘較嘂嘦斠漖酵噍嶠潐噭嬓徼獥藠趭轎醮譥皭釂鵤櫵"]),
  ("Jie", [
    "阶疖皆接掲痎秸菨階喈喼嗟堦媘嫅揭椄湝脻街煯稭鞂擑蝔癤謯鶛卩卪孑尐节讦刦刧劫岊昅杢刼劼杰疌",
    "衱诘拮洁结迼倢桀桔桝莭訐偼婕崨捷掶袺傑媫結絜颉嵥楬楶滐睫節蜐蝍詰鉣魝截榤碣竭蓵鲒潔羯誱踕",
    "鞊幯嶻擮礍鍻鮚巀櫭蠞蠘蠽姐毑媎解觧飷檞丯介吤岕庎戒芥屆届玠界畍疥砎衸诫借悈蚧徣堺楐琾蛶骱",
    "犗誡褯魪鎅"]),
  ("Jin", [
    "巾今斤钅兓金釒津矜砛荕衿觔埐珒矝紟惍堻琻筋釿嶜鹶黅襟仅尽侭卺巹紧堇菫僅厪谨锦嫤廑漌盡緊蓳",
    "馑槿瑾儘錦謹饉伒劤劲妗近进枃勁浕荩晉晋浸烬赆唫琎祲進煡寖搢溍禁缙靳墐瑨僸凚歏殣璡觐噤濅縉",
    "賮嚍壗嬧濜藎燼璶覲贐齽"]),
  ("Jing", [
    "坕坙巠京泾经茎亰秔荆荊涇莖婛惊旌旍猄経菁晶稉腈葏睛粳經兢精聙橸鲸鵛鯨鶁鶄麖鼱驚麠井丼阱刭",
    "坓宑汫汬肼剄穽颈景儆頚幜憬璄憼暻璟璥頸蟼警妌净弪径迳俓婙浄胫倞凈弳徑痉竞逕婧桱梷淨竫脛竟",
    "敬痙竧靓傹靖境獍誩踁静靚曔镜靜瀞鏡競竸燝"]),
  ("Jiong", ["冂冋坰扃埛絅駉駫蘏蘔冏囧泂炅迥侰炯逈浻烱煚窘颎綗僒煛熲澃燛褧"]),
  ("Jiu", [
    "丩勼纠朻牞究糺鸠糾赳阄萛啾揂揪揫鳩摎樛鬏鬮九久乆乣氿奺汣杦灸玖舏韭紤酒镹韮匛旧臼咎疚柩柾",
    "倃捄桕匓厩救就廄廐舅僦廏慦殧舊鹫匶鯦麔欍齨鷲"]),
  ("Ju", [
    "凥抅匊居拘泃狙苴驹挶疽痀眗砠罝陱娵婮崌掬梮涺椐琚腒趄跔锔裾雎艍蜛諊踘鋦駒鮈鴡鞠鞫鶋局泦侷",
    "狊毩啹婅淗焗菊郹椈毱湨犑輂僪粷跼閰趜躹橘檋駶鵙蹫鵴巈蘜鶪鼰鼳驧咀弆沮举矩莒挙椇筥榉榘蒟龃",
    "聥舉踽擧櫸齟欅襷巨句乬巪讵姖岠怇拒洰苣邭具怐怚拠昛歫炬秬钜俱倨倶冣剧烥粔耟蚷袓埧埾惧据詎",
    "距犋跙鉅飓虡豦锯寠愳窭聚駏劇勮屦踞鮔壉懅據澽窶遽鋸屨颶貗簴躆醵懼鐻爠"]),
  ("Juan", [
    "姢娟捐涓焆瓹脧裐鹃勬镌鎸鵑鐫蠲卷呟帣埍捲菤锩臇錈奆劵巻倦勌桊狷绢隽淃眷鄄睊絭罥雋睠絹飬慻",
    "蔨餋獧縳羂"]),
  ("Jue", [
    "噘撅撧屩蹻亅孒孓决刔氒诀弡抉決芵泬玦玨挗珏疦砄绝虳觉倔捔欮蚗崛掘斍桷殌覐觖訣赽趹逫傕厥焳",
    "絕絶覚趉鈌劂勪瑴谲駃嶥憰熦爴獗瘚蕝蕨鴂鴃憠橛橜爵臄镢蟨蟩屫爑譎蹶蹷鶌匷嚼矍覺鐍鐝灍爝觼彏",
    "戄攫玃鷢欔矡龣貜躩钁"]),
  ("Jun", [
    "军君均汮姰袀軍钧莙蚐桾皲菌鈞碅皸皹覠銁銞鲪麇鍕鮶麏麕呁俊郡陖埈峻捃浚馂骏晙焌珺棞畯竣葰儁",
    "箘箟蜠寯懏餕燇濬駿鵔鵕鵘攈攟"]),
  ("Ka", ["咔咖喀衉擖卡佧垰胩裃鉲"]),
  ("Kai", ["开奒揩锎開鐦凯剀垲恺闿铠凱剴嘅慨蒈塏嵦愷楷輆暟锴鍇鎧闓颽忾炌炏欬烗勓愒愾鎎"]),
  ("Kan", ["刊栞勘龛堪嵁戡龕冚坎侃砍莰偘埳惂欿塪歁槛輡檻顑竷轗看衎崁墈阚瞰磡闞矙"]),
  ("Kang", ["忼砊粇康嫝嵻慷漮槺穅糠躿鏮鱇扛摃亢伉匟邟囥抗犺闶炕钪鈧閌"]),
  ("Kao", ["尻髛丂攷考拷洘栲烤铐犒銬鲓靠鮳鯌"]),
  ("Ke", [
    "匼苛柯牁珂科胢轲疴砢趷钶嵙棵萪軻颏嗑搕犐稞窠鈳榼薖颗樖瞌磕蝌醘顆髁礚壳揢殼翗可坷岢炣渇嵑",
    "敤渴嶱克刻勀勊客恪娔尅课堁氪骒缂愙溘锞碦緙艐課礊騍剋"]),
  ("Ken", ["肎肯肻垦恳啃豤墾錹懇齦掯裉褃"]),
  ("Keng", ["劥阬吭坑妔挳硁牼硜铿硻摼誙銵鍞鏗"]),
  ("Kong", ["空埪崆悾涳硿箜躻錓鵼孔倥恐控鞚"]),
  ("Kou", ["抠芤眍剾彄摳瞘口劶叩扣敂冦宼寇釦窛筘滱蔲蔻瞉簆鷇"]),
  ("Ku", ["扝刳矻郀枯哭桍堀崫圐跍窟骷鮬狜苦库俈绔庫秙趶焅袴喾絝裤瘔酷廤褲嚳"]),
  ("Kua", ["夸姱舿誇侉咵垮銙挎胯跨骻"]),
  ("Kuai", ["蒯擓巜凷圦块快侩郐哙狯脍塊筷鲙儈墤鄶噲廥獪膾旝糩鱠"]),
  ("Kuan", ["宽寛寬臗髋鑧髖欵款歀窽窾"]),
  ("Kuang", [
    "匡劻诓邼匩哐恇洭硄筐筺誆軭忹抂狂狅诳軖軠誑鵟夼儣懭卝邝圹纩况旷岲況矿昿贶框眖砿眶絋絖貺軦",
    "鉱鋛鄺壙黋懬曠爌矌礦穬纊鑛"]),
  ("Kui", [
    "亏刲岿悝盔窥聧窺虧顝闚巋蘬奎晆逵鄈頄馗喹揆葵骙戣暌楏楑魁睽蝰頯櫆藈鍨鍷騤夔蘷巙虁犪躨傀煃",
    "跬頍蹞尯匮欳喟媿愦愧溃腃蒉馈瞆嘳嬇憒潰篑聩聭蕢樻謉餽簣聵籄鐀饋鑎"]),
  ("Kun", [
    "坤昆堃堒婫崐崑晜猑菎裈焜琨髠裩貇锟髡鹍潉蜫褌髨熴瑻醌錕鲲騉鯤鵾鶤悃捆阃壸梱祵硱稇裍壼稛綑",
    "閫閸困涃睏尡"]),
  ("Kuo", ["扩拡括挄桰筈萿葀蛞阔廓頢髺擴濶闊鞟韕懖霩鞹鬠"]),
  ("La", ["垃拉柆翋菈搚邋旯砬揦磖嚹喇藞剌溂腊揧楋瘌蜡蝋辢辣蝲臈攋爉臘鬎瓎镴鯻蠟鑞啦鞡"]),
  ("Lai", [
    "来來俫倈崃徕涞莱郲婡崍庲徠梾淶猍萊逨棶琜筙铼箂錸騋鯠鶆麳唻赉睐睞赖賚濑賴頼顂癞鵣瀨瀬籁藾",
    "櫴癩襰籟"]),
  ("Lan", [
    "兰岚拦栏婪惏嵐葻阑蓝谰厱澜褴儖斓篮懢燣燷藍襕镧闌璼襤譋幱攔瀾灆籃繿蘭斕欄礷襴囒灡籣欗讕躝",
    "襽钄韊览浨揽缆榄漤罱醂壈懒覧擥嬾懶孄覽孏攬灠囕欖爦顲纜烂滥燗嚂濫爁爛瓓爤鑭糷"]),
  ("Lang", ["啷勆郎郞欴狼嫏廊斏桹琅蓈榔瑯硠稂锒筤艆蜋郒螂躴鋃鎯駺朗朖烺塱蓢樃誏朤埌崀浪莨阆蒗閬"]),
  ("Lao", [
    "唥捞粩撈労劳牢窂哰唠崂浶勞痨铹僗嘮嶗憥朥癆磱簩蟧醪鐒顟髝耂老佬咾姥恅狫荖栳珯硓铑蛯銠鮱轑",
    "涝烙嗠耢酪嫪憦澇躼橯耮軂"]),
  ("Le", ["仂阞乐叻忇扐氻艻玏泐竻砳楽韷樂簕鳓鰳了饹餎勒"]),
  ("Lei", [
    "雷嫘缧蔂畾擂檑縲礌镭櫑瓃羸礧纍罍蘲鐳轠儽壨鑘靁虆鱩欙纝鼺厽耒诔垒塁絫腂傫誄樏磊蕌磥蕾儡壘",
    "癗藟櫐矋礨灅蠝蘽讄鑸鸓肋泪洡类涙淚累酹銇頛頪錑攂颣類纇蘱禷嘞"]),
  ("Leng", ["崚塄棱楞碐稜輘薐冷倰堎愣睖踜"]),
  ("Li", [
    "哩刕杝厘剓狸离荲骊悡梨梩梸犁琍菞喱棃犂鹂剺漓睝筣缡艃蓠蜊嫠孷樆璃盠竰貍糎蔾褵鋫鲡黎篱縭罹",
    "錅蟍謧醨嚟藜邌離鯏斄瓈鏫鯬鵹黧囄灕蘺蠡蠫孋廲劙鑗穲籬纚驪鱺鸝礼李里俚峢娌峲浬逦理裡锂粴裏",
    "豊鋰鲤兣澧禮鯉蟸醴鳢邐鱧欚力历厉屴立吏朸丽利励呖坜沥苈例岦戾枥沴疠苙隶俐俪栃栎疬砅茘荔赲",
    "轹郦唎娳悧栗栛涖猁珕砺砾秝莅莉唳婯悷笠粒粝脷蚸蛎傈凓厤棙痢蛠詈跞雳厯塛慄搮溧蒚蒞鉝鳨厲暦",
    "歴瑮綟蜧蝷勵曆歷篥隷鴗巁檪濿癘磿隸鬁儮曞櫔爄犡禲蠇鎘嚦壢攊櫟瀝瓅礪藶麗櫪爏瓑皪盭礫糲蠣儷",
    "癧礰酈鷅麜囇攦觻躒轢欐讈轣攭瓥靂鱱鱳靋"]),
  ("Lia", ["俩倆"]),
  ("Lian", [
    "奁连帘怜涟莲連梿联裢亷嗹廉慩溓漣蓮匲奩槤熑覝劆匳噒嫾憐磏聨聫褳鲢濂濓縺翴聮薕螊櫣燫聯臁謰",
    "蹥鎌镰簾蠊鬑鐮鰱籢籨敛琏脸裣摙璉蔹嬚斂臉鄻襝羷蘝蘞练炼恋浰殓僆堜媡湅萰链楝煉瑓潋練澰錬殮",
    "鍊鏈瀲鰊戀纞"]),
  ("Liang", ["良俍凉梁涼椋辌粮粱墚綡樑輬糧両两兩唡啢掚脼裲緉蜽魉魎亮哴悢谅辆喨晾湸量輌踉諒輛鍄"]),
  ("Liao", [
    "煷撩蹽辽疗聊僚寥嵺憀漻膋嘹嫽寮嶚嶛敹潦獠缭遼暸橑燎璙膫療竂鹩屪廫簝繚蟟豂賿蹘爎鐐髎藔飉鷯",
    "叾钌釕鄝蓼憭曢镽爒尥尦炓料尞廖撂窷瞭镣"]),
  ("Lie", ["毟咧挘列劣冽劽姴峛挒洌茢迾哷埒埓栵浖烈烮捩猎猟脟蛚裂煭睙聗趔巤颲儠鮤鴷擸獵犣躐鬛鬣鱲"]),
  ("Lin", [
    "拎厸邻林临冧啉崊淋晽琳粦痳碄箖粼鄰隣嶙潾獜遴斴暽燐璘辚霖瞵磷臨繗翷麐轔壣瀶鏻鳞驎鱗麟菻亃",
    "凛凜撛廩廪懍懔澟檁檩癛癝吝恡悋赁焛賃僯蔺橉甐膦閵疄藺蹸躏躙躪轥"]),
  ("Ling", [
    "伶刢灵囹坽夌姈岺彾泠狑苓昤朎柃玲瓴凌皊砱秢竛铃陵鸰婈掕棂淩琌笭紷绫羚翎聆舲菱蛉衑祾詅跉軨",
    "蓤裬鈴閝零龄綾蔆霊駖澪蕶錂霗魿鲮鴒鹷燯霛霝齢酃鯪孁蘦齡櫺醽靈欞爧麢龗阾岭袊领領嶺令另呤炩",
    "瀮"]),
  ("Liu", [
    "溜熘蹓刘沠畄浏流留旈琉畱硫裗媹嵧旒蒥蓅馏骝榴瑠飗劉瑬瘤磂镏駠鹠橊璢疁镠癅蟉駵嚠懰瀏藰鎏鎦",
    "麍鏐飀鐂騮飅鰡鶹驑柳栁桞珋桺绺锍綹熮罶鋶橮嬼羀六畂翏塯廇遛澑磟鹨霤餾雡飂鬸鷚囖"]),
  ("Long", [
    "龙屸咙泷茏昽栊珑胧眬砻竜笼聋隆湰滝嶐槞漋蕯癃窿篭龍嚨巃巄瀧蘢鏧霳曨朧櫳爖瓏矓礱礲襱龒籠聾",
    "蠪蠬豅躘鑨靇驡鸗陇垄垅拢篢儱隴壟壠攏竉龓哢梇徿贚"]),
  ("Lou", ["瞜剅娄偻婁喽溇蒌僂楼嘍廔慺漊蔞遱樓熡耧蝼耬艛螻謱軁髅鞻髏嵝搂塿嶁摟甊篓簍陋屚漏瘘镂瘺瘻鏤"]),
  ("Lu", [
    "噜撸謢卢庐芦垆枦泸炉栌胪轳舮鸬玈舻颅鈩鲈魲盧嚧壚廬攎瀘獹璷蘆曥櫨爐瓐臚矑籚纑罏艫蠦轤鑪顱",
    "髗鱸鸕黸卤虏掳鹵硵鲁虜塷滷蓾樐澛魯擄橹磠镥嚕擼瀂櫓氌艣鏀艪鐪鑥圥甪陆侓坴彔录峍勎赂辂陸娽",
    "淕淥渌硉菉逯鹿椂琭禄祿僇剹勠盝睩碌稑賂路輅塶廘摝漉箓粶蔍戮樚熝膔觮趢踛辘醁潞穋蕗錄録錴璐",
    "簏螰簶蹗轆騄鹭簬簵鏕鯥鵦鵱麓鏴露騼籙虂鷺氇驴闾榈閭馿氀膢櫚藘鷜驢吕呂侣郘侶挔捛捋旅梠焒祣",
    "稆铝屡絽缕屢膂褛鋁履膐褸儢穞縷穭寽垏律虑率绿嵂氯葎滤綠緑慮箻膟勴繂濾櫖爈鑢"]),
  ("Luan", ["娈孪峦挛栾鸾脔滦銮鵉圝奱孌孿巒攣曫欒灓羉臠圞灤虊鑾癴癵鸞卵乱釠亂"]),
  ("Lue", ["掠略畧锊稤圙鋝鋢擽"]),
  ("Lun", ["抡掄仑伦囵沦纶侖轮倫陯圇婨崘崙惀淪菕棆腀綸蜦踚輪磮錀鯩埨碖稐耣论溣論"]),
  ("Luo", [
    "啰頱囉罖罗猡脶萝逻椤腡覙锣箩骡镙螺羅覶鏍儸覼騾攞玀蘿邏欏驘鸁籮鑼饠剆倮蓏裸躶瘰蠃臝曪癳泺",
    "峈洛络荦骆洜珞硦笿絡落摞漯犖雒駱鮥鴼鵅濼纙呣"]),
  ("Ma", ["妈孖媽嬤麻痲蔴犘蟆蟇马犸玛码蚂馬溤遤瑪碼螞鎷鰢鷌杩祃閁骂傌獁睰嘜榪禡罵駡礣鬕亇吗嗎嘛嫲"]),
  ("Mai", ["埋薶霾买荬買嘪蕒鷶劢迈佅売麦卖脉唛脈麥衇勱賣邁霡霢"]),
  ("Man", [
    "嫚颟姏悗蛮僈慲馒樠瞒瞞鞔謾饅鳗顢鬗鬘鰻蠻屘満睌满滿螨襔蟎鏋矕曼谩鄤墁幔慢摱漫獌缦蔄蔓槾熳",
    "澷镘縵鏝蘰"]),
  ("Mang", ["牤邙吂忙汒芒尨杗杧氓盲厖恾笀茫哤娏庬浝狵牻硭釯铓痝蛖鋩駹莽莾硥茻壾漭蟒蠎"]),
  ("Mao", [
    "猫貓毛矛枆牦茅茆旄罞兞渵軞酕堥锚髦氂犛蝥髳錨蟊鶜冇卯夘乮戼峁泖昴铆笷蓩鉚冃皃芼冐茂冒柕眊",
    "贸耄袤覒媢帽萺貿鄚愗暓楙毷瑁瞀貌鄮蝐懋"]),
  ("Me", ["嚒么麼濹嚜癦"]),
  ("Mei", [
    "呅坆沒没枚玫苺栂眉娒脄莓梅珻脢郿堳媒嵋湄湈猸睂葿楣楳煤瑂禖腜塺槑酶镅鹛鋂霉穈徾鎇矀攗蘪鶥",
    "黴毎每凂美挴浼媄嵄渼媺镁嬍燘躾鎂黣妹抺沬旀昧祙袂眛媚寐痗跊鬽煝睸韎魅篃蝞"]),
  ("Men", ["椚门扪玧钔門閅捫菛璊鍆虋呇闷焖悶暪燜懑懣们們擝"]),
  ("Meng", [
    "甿虻冡莔萌溕盟蒙甍儚橗瞢蕄蝱鄳鄸幪懞濛曚朦檬氋矇礞鯍鹲艨蘉矒霿靀饛顭鼆鸏勐猛瓾锰艋蜢懜獴",
    "錳懵蠓鯭孟梦夢夣霥掹"]),
  ("Mi", [
    "咪眯瞇冞弥祢迷袮猕谜蒾詸謎醚彌擟糜縻麊麋禰靡瀰獼麛镾戂攠瓕蘼爢醾醿鸍釄米芈侎沵羋弭洣敉眫",
    "粎脒渳葞蔝銤濔孊灖冖糸汨沕宓泌觅峚祕宻秘密淧覓覔幂谧塓幎覛嘧榓滵漞熐蔤蜜鼏冪樒幦濗藌謐櫁",
    "簚羃"]),
  ("Mian", [
    "宀芇杣眠婂绵媔棉綿緜臱蝒嬵檰櫋矈矊矏丏汅免沔勉娩偭冕勔渑喕愐湎缅葂絻腼黽緬澠鮸靣眄面糆麪",
    "麫麺麵"]),
  ("Miao", ["喵苗媌描瞄鹋嫹緢鶓鱙杪眇秒淼渺缈篎緲藐邈妙庙玅竗庿廟"]),
  ("Mie", ["乜吀咩哶孭灭烕覕搣滅蔑薎鴓幭懱篾櫗蠛衊鑖鱴"]),
  ("Min", [
    "民姄岷忞怋旻旼苠珉盿砇罠崏捪琘琝缗瑉痻鈱緍緡錉鴖鍲皿冺刡闵抿泯黾勄敃闽悯敏笢笽惽湣閔愍敯",
    "暋閩僶慜憫潣簢鳘蠠鰵垊"]),
  ("Ming", ["名明鸣洺眀茗冥朙眳铭鄍嫇溟猽蓂暝榠銘鳴瞑螟覭佲姳凕慏酩命椧詺"]),
  ("Miu", ["掵谬謬"]),
  ("Mo", [
    "摸庅尛谟嫫馍摹模膜麽摩魹橅磨糢嬷謨謩嚤擵藦饃嚩嚰蘑髍魔劘饝抹懡末劰圽妺帓歾歿殁沫茉陌帞昩",
    "枺唜皌眜眿砞秣莈莫眽粖絈湐蛨貃嗼塻寞漠獏蓦貊暯銆靺嫼黙瘼瞐瞙镆魩墨默瀎貘蟔鏌爅驀礳纆耱怽",
    "麿"]),
  ("Mou", ["哞牟侔劺恈洠眸谋蛑缪踎鉾謀瞴繆鍪鴾麰某"]),
  ("Mu", [
    "毪氁墲母亩牡坶姆拇峔牳畆畒胟畝畞砪畮鉧踇木仫朰目凩沐狇炑牧苜毣莯蚞钼募雮墓幕幙慔楘睦鉬慕",
    "暮艒霂穆縸鞪"]),
  ("Na", ["拏拿挐嗱镎鎿乸哪雫那吶呐妠纳肭娜衲钠納袦捺笝豽軜貀鈉蒳靹魶"]),
  ("Nai", ["腉熋摨孻乃奶艿氖疓妳廼迺倷釢嬭佴奈柰耏耐萘渿鼐褦螚錼"]),
  ("Nan", ["囡男抩枏侽南柟娚畘莮难喃萳遖暔楠諵難赧揇湳煵腩蝻戁婻"]),
  ("Nang", ["囔乪嚢譨囊蠰鬞馕欜饢擃曩攮灢儾齉"]),
  ("Nao", ["孬呶怓挠峱硇铙猱蛲詉碙撓嶩憹蟯夒譊鐃巎垴恼悩脑匘脳堖惱嫐瑙腦碯獶獿闹淖閙鬧臑"]),
  ("Ne", ["疒讷抐眲訥呢"]),
  ("Nei", ["娞馁脮腇餒鮾鯘內内氝錗"]),
  ("Nen", ["恁嫩嫰"]),
  ("Neng", ["能嗯"]),
  ("Ni", [
    "妮尼伲坭怩泥籾倪屔秜郳铌埿婗淣猊蚭棿跜腝聣蜺觬貎輗霓鲵鯢麑齯臡伱你拟抳狔苨柅旎晲孴鈮馜儗",
    "儞隬擬薿檷聻屰氼迡昵胒逆匿眤堄惄嫟愵溺睨腻暱縌誽膩嬺"]),
  ("Nian", ["拈蔫年秊哖秥鲇鮎鲶鵇黏鯰涊捻淰焾跈辇撚撵碾輦簐蹍攆蹨躎卄廿念姩唸埝艌"]),
  ("Niang", ["娘嬢孃酿醸釀"]),
  ("Niao", ["鸟茑袅鳥嫋裊蔦樢嬝褭嬲尿脲"]),
  ("Nie", [
    "捏揑苶帇圼枿陧涅痆聂臬啮惗菍隉喦敜湼嗫嵲踂噛摰槷踗踙镊镍嶭篞臲錜颞蹑嚙聶鎳闑孼孽櫱籋蘖囁",
    "齧巕糱糵蠥鑈囓讘躡鑷顳钀"]),
  ("Nin", ["囜您拰脌"]),
  ("Ning", ["宁咛拧狞苧柠聍寍寕甯寗寜寧儜凝嚀嬣擰獰薴檸聹鑏鬡鸋橣矃佞侫泞倿澝濘妞"]),
  ("Niu", ["牛牜汼忸扭狃纽炄钮紐莥鈕靵"]),
  ("Nong", ["农侬哝浓脓秾農儂辳噥濃蕽檂燶禯膿穠襛醲欁繷弄挊挵癑齈"]),
  ("Nou", ["羺啂槈耨獳檽鎒鐞譳"]),
  ("Nu", ["奴孥驽笯駑伮努弩砮胬怒傉搙女钕籹釹沑衂恧朒衄"]),
  ("Nuan", ["奻渜暖煖煗餪"]),
  ("Nue", ["疟虐硸瘧黁"]),
  ("Nuo", ["郍挪梛傩儺橠诺喏掿逽愞搦锘搻榒稬諾蹃糑懦懧糥穤糯"]),
  ("O", ["喔噢哦"]),
  ("Ou", ["讴欧殴瓯鸥筽塸漚歐毆熰甌膒鴎櫙藲謳鏂鷗齵吘呕偶腢嘔耦蕅藕怄沤慪"]),
  ("Pa", ["妑皅趴舥啪葩杷爬掱琶筢潖帊帕怕袙"]),
  ("Pai", ["拍俳徘排猅棑牌輫簰簲犤廹哌派渒湃蒎鎃"]),
  ("Pan", ["眅畨萠潘攀爿洀盘跘媻幋蒰搫槃盤磐縏磻蹒瀊蟠蹣鎜鞶冸判沜拚泮炍叛牉盼畔聁袢詊溿頖鋬鵥襻鑻"]),
  ("Pang", ["乓沗胮雱滂膖霶厐彷庞逄旁舽嫎徬螃鳑龎龐嗙耪覫炐肨胖"]),
  ("Pao", ["抛拋脬萢刨咆垉庖狍炰爮袍匏軳鞄褜麃麅跑奅泡炮疱皰砲麭礟礮"]),
  ("Pei", ["呸怌肧柸胚衃醅阫陪培毰赔锫裴裵賠駍俖伂沛佩帔姵斾旆浿珮配蓜辔馷嶏霈轡"]),
  ("Pen", ["喷噴歕瓫盆湓葐呠翸喯"]),
  ("Peng", [
    "匉怦抨恲砰梈烹硑軯閛漰嘭磞芃朋挷竼倗莑堋弸淜彭棚椖塳硼稝蓬鹏槰樥熢憉澎輣篣篷膨錋韸髼蟚蟛",
    "鬅纄蘕韼鵬騯鬔鑝捧淎皏剻掽椪碰踫"]),
  ("Pi", [
    "丕伓伾批纰邳坯披抷炋狉砒悂秛秠紕旇翍耚豾鈚鈹鉟銔劈磇駓髬噼錃錍魾鮍憵礔礕霹皮阰陂岯枇毞狓",
    "肶毗毘疲蚍郫铍陴啤埤崥蚽蚾豼焷琵脾腗鲏罴膍蜱魮壀篺螷貔鵧羆朇鼙蠯匹庀疋仳圮苉脴痞銢諀鴄擗",
    "噽癖嚭屁淠揊釽媲嫓睥辟潎稫僻澼嚊甓疈譬闢鷿鸊"]),
  ("Pian", ["囨偏媥犏篇翩鍂鶣骈胼腁楄楩賆跰諚骿蹁駢騈覑谝貵諞片骗魸騗騙"]),
  ("Piao", ["剽彯慓缥飘旚翲螵犥飃飄魒嫖瓢薸闝殍瞟篻縹醥皫顠票僄勡嘌徱漂蔈"]),
  ("Pie", ["氕撇撆暼瞥丿苤鐅嫳"]),
  ("Pin", ["姘拼礗穦馪驞玭贫娦貧琕嫔频頻嬪薲嚬矉蠙颦顰品榀牝汖聘"]),
  ("Ping", [
    "乒甹俜娉涄砯聠艵竮頩平评凭呯坪岼泙苹郱屏帡枰洴玶胓荓瓶屛帲萍蚲塀幈焩甁缾蓱蛢評軿鲆凴慿箳",
    "輧憑鮃檘簈蘋"]),
  ("Po", ["钋坡岥泊泼颇溌酦鉕頗潑鏺婆嘙蔢鄱皤謈櫇叵尀钷笸駊岶迫敀昢洦珀烞破砶釙粕蒪魄醗桲"]),
  ("Pou", ["剖娝抔抙捊掊裒箁錇咅哣婄犃"]),
  ("Pu", [
    "仆攴攵扑炇陠噗撲潽擈鯆圤匍莆脯菩菐葡蒱蒲僕酺墣獛璞濮瞨穙镤贌纀鏷朴圃浦烳普圑溥暜谱諩樸氆",
    "檏镨譜蹼鐠铺舖舗鋪瀑曝巬巭"]),
  ("Qi", [
    "七迉沏妻柒倛凄栖桤郪娸悽戚捿桼淒萋攲期棲欹欺紪蛣褄僛嘁慽榿漆緀慼諆諿霋蹊魌鏚鶈亓祁齐圻岐",
    "岓忯芪亝其奇斉歧祇祈肵俟疧竒剘斊旂耆脐蚑蚔蚚颀埼崎帺掑淇猉畦萁萕跂軝釮骐骑嵜棊棋琦琪祺蛴",
    "愭碁碕褀锜頎鬿旗粸綥綦綨蜝蜞齊璂禥蕲踑螧錡鲯懠濝藄檱櫀簱臍騎騏鳍蘄鯕鵸鶀麒籏纃艩蠐鬐騹鰭",
    "玂麡乞邔企屺岂芑启杞玘盀唘豈起啓啔婍啟绮晵棨綺諬闙气讫忔気汔迄弃汽矵芞呮泣炁盵咠契洓砌栔",
    "氣訖唭欫夡棄湆湇葺碛摖暣甈碶噐憇槭器憩磜磧磩罊蟿鼜缼緕簯"]),
  ("Qia", ["掐袷葜拤峠跒酠鞐圶冾帢恰洽殎硈愘髂"]),
  ("Qian", [
    "千仟阡圱圲奷扦汘芊迁佥岍杄汧瓩茾欦竏臤钎拪牵粁兛悭蚈谸铅婜孯牽釺掔谦鈆雃僉愆签鉛骞鹐慳搴",
    "撁箞諐遷褰謙顅檶攐攑櫏簽鵮攓騫鬝鬜籤韆仱岒忴扲拑前钤歬虔钱钳乾偂掮揵軡媊鈐靬鉗墘榩箝銭潛",
    "潜羬蕁橬錢黔黚騝濳騚灊鰬凵浅肷淺脥嗛嵰遣槏膁蜸谴缱繾譴鑓欠刋伣芡俔茜倩悓堑傔嵌棈椠慊皘蒨",
    "塹歉綪蔳儙槧篏輤篟壍嬱縴鰜鎆鏲籖"]),
  ("Qiang", [
    "呛羌戕戗斨枪玱羗猐嗴椌溬獇腔嗆蜣锖嶈戧槍牄瑲羫锵篬錆謒蹌镪蹡鎗鏘丬強强墙嫱蔷樯漒蔃墻嬙廧",
    "薔檣牆艢蘠抢羟搶羥墏繈襁繦鏹炝唴跄熗羻"]),
  ("Qiao", [
    "悄硗郻嵪跷鄡鄥劁敲毃踍锹墝頝骹墽幧橇燆缲磽鍫鍬繑趬蹺鐰乔侨荍荞桥硚菬喬僑槗谯嘺嫶憔蕎鞒樵",
    "橋犞癄瞧礄藮趫鐈鞽顦巧釥愀髜俏诮陗峭帩窍殻翘誚髚僺撬撽鞘韒竅翹鞩譙躈"]),
  ("Qie", ["苆聺且切厒妾怯郄匧窃悏挈洯惬淁笡愜蛪朅箧緁锲篋踥穕藒鍥鯜鐑竊籡"]),
  ("Qin", [
    "亲侵钦衾骎媇嵚欽綅誛嶔親顉駸鮼寴庈芩芹埁珡秦耹菦蚙捦菳琴琹禽鈙鈫雂勤嗪嫀溱靲慬噙擒斳鳹懄",
    "檎澿瘽螓懃蠄鬵鵭坅昑笉梫赾寑锓寝寢鋟螼吢吣抋沁唚菣揿搇撳瀙藽"]),
  ("Qing", [
    "靑青氢轻倾卿郬圊埥寈氫淸清傾蜻輕鲭鑋夝甠剠勍情殑晴棾氰葝暒擏樈擎檠黥苘顷请庼頃廎漀請檾庆",
    "凊掅殸碃箐綮靘慶磬儬濪罄謦櫦硘"]),
  ("Qiong", ["卭邛宆穷穹茕桏笻筇赹惸焪焭琼舼蛩蛬煢熍睘跫銎瞏窮儝憌橩璚藑瓊竆藭瓗"]),
  ("Qiu", [
    "丘丠邱坵恘秋秌蚯媝萩楸蓲鹙篍緧蝵穐趥鳅蟗鞦鞧蘒鰌鰍鶖蠤龝叴囚扏犰玌汓肍求虬泅虯俅觓訄訅酋",
    "唒浗紌莍逎逑釚梂殏毬球赇釻崷巯渞湭皳盚遒煪絿蛷裘巰觩賕璆蝤銶醔鮂鼽鯄鰽搝糗"]),
  ("Qu", [
    "区曲伹佉匤岖诎阹驱坥屈岨岴抾浀祛胠袪區紶蛆躯筁粬蛐詘趋嶇憈駆敺誳镼駈麹髷魼趨麯覰軀麴黢覻",
    "驅鰸鱋佢劬斪朐胊菃衐鸲淭渠絇翑葋軥蕖璖磲螶鴝璩蟝瞿鼩蘧忂灈戵欋氍籧臞癯蠷衢躣蠼鑺鸜取竘娶",
    "詓竬蝺龋齲厺去刞呿唟耝阒觑趣閴麮闃覷鼁迲"]),
  ("Quan", [
    "奍峑弮恮悛圈圏棬駩鐉全权佺诠姾泉洤荃拳牷辁啳埢婘惓痊硂铨湶犈筌絟葲搼楾瑔觠詮跧輇蜷銓権踡",
    "縓醛闎鳈鬈騡孉巏鰁權齤蠸颧顴犭犬汱畎烇绻綣虇劝券牶勧韏勸椦"]),
  ("Que", ["炔缺蒛阙瘸却卻埆崅悫琷雀硞确阕塙搉皵碏鹊愨榷墧慤確碻趞燩闋礐闕鵲礭"]),
  ("Qun", ["夋囷峮逡宭帬裙羣群裠"]),
  ("Ran", ["呥肰衻袇蚦袡蚺然髥嘫髯燃繎冄冉姌苒染珃媣蒅橪穣儴勷瀼獽蘘禳"]),
  ("Rang", ["瓤穰躟鬤壌嚷壤攘爙纕让懹譲讓"]),
  ("Rao", ["娆荛饶桡嬈蕘橈襓饒扰隢擾绕遶繞"]),
  ("Re", ["惹热熱"]),
  ("Ren", [
    "人亻仁壬忈朲忎秂芢鈓魜銋鵀忍荏栠栣荵秹棯稔綛躵刃刄认仞仭讱任屻岃扨纫妊杒牣纴肕轫韧饪姙祍",
    "紉衽紝訒軔梕袵絍腍葚靭靱韌飪認餁"]),
  ("Reng", ["扔仍辸礽陾芿"]),
  ("Ri", ["日驲囸釰鈤馹"]),
  ("Rong", [
    "戎肜栄狨绒茙茸荣容峵毧烿媶嵘搑絨羢嫆嵤搈榵溶蓉榕榮熔瑢穁縙蝾褣镕融螎駥髶嬫嶸爃鎔巆瀜曧蠑",
    "冗宂坈傇軵氄穃"]),
  ("Rou", ["厹禸柔粈媃揉渘葇煣瑈腬糅蝚蹂輮鍒鞣瓇騥鰇鶔楺韖肉宍"]),
  ("Ru", [
    "邚如侞帤茹桇袽铷渪筎蒘銣蕠蝡儒鴑嚅嬬孺濡薷鴽曘燸襦蠕颥醹顬鱬汝肗乳辱鄏擩入扖杁洳嗕媷溽缛",
    "蓐鳰褥縟嶿挼"]),
  ("Ruan", ["堧撋壖阮朊软耎偄軟媆瑌碝緛輭瓀礝"]),
  ("Rui", ["婑桵甤緌蕤蕊蕋橤繠蘂蘃汭芮枘蚋锐瑞蜹睿銳鋭叡壡"]),
  ("Run", ["瞤闰润閏閠潤橍膶"]),
  ("Ruo", ["捼叒若偌弱鄀婼渃焫楉嵶蒻箬篛爇鰙鰯鶸"]),
  ("Sa", ["仨挱挲撒洒訯靸潵灑躠卅泧钑飒脎萨鈒摋隡馺颯薩櫒虄"]),
  ("Sai", ["毢愢揌塞毸腮嘥噻鳃顋鰓嗮赛僿賽簺"]),
  ("San", ["三弎叁毵毶厁毿犙鬖仐伞傘糁糂馓糝糣糤繖鏒鏾饊俕帴散閐壭橵"]),
  ("Sang", ["桒桑槡嗓搡磉褬颡鎟顙丧喪"]),
  ("Sao", ["掻慅搔溞骚缫螦繅臊鳋騒騷鰠鱢扫掃嫂埽瘙氉矂髞閪"]),
  ("Se", ["色栜涩啬渋铯雭歮琗嗇瑟歰銫澁懎擌濇濏瘷穑澀璱瀒穡繬穯轖鏼譅飋"]),
  ("Sen", ["森椮槮襂"]),
  ("Seng", ["僧鬙"]),
  ("Sha", [
    "杀沙纱乷刹剎砂唦殺猀粆紗莎桬毮铩痧硰煞蔱裟榝樧魦鲨鎩鯊鯋啥傻儍倽唼啑帹萐厦喢嗄廈歃翜箑翣",
    "閯霎繌"]),
  ("Shai", ["筛篩簁簛釃繺晒閷曬"]),
  ("Shan", [
    "山彡邖圸删刪杉芟姍姗苫衫钐埏挻柵狦珊舢痁脠軕笘閊跚剼搧嘇幓煽潸澘檆縿膻鯅羴羶闪陕炶陝閃晱",
    "煔睒熌覢讪汕疝剡扇訕赸釤傓善椫銏骟僐鄯墠墡潬缮嬗嶦擅敾樿歚膳磰謆赡繕蟮蟺譱贍鐥饍騸鳝灗鱓",
    "鱔"]),
  ("Shang", ["伤殇商觞傷墒慯滳漡蔏殤熵螪觴謪鬺垧扄晌赏賞贘鑜丄上尙尚恦绱緔鞝裳"]),
  ("Shao", ["弰捎烧莦梢焼稍旓筲艄蛸輎蕱燒颵髾鮹勺芍苕柖玿韶少劭卲邵绍哨娋袑紹睄綤潲"]),
  ("She", ["奢猞赊畬畲輋賒賖檨舌佘虵蛇蛥舍捨厍设社舎厙射涉涻渉設赦弽慑摂摄滠慴摵蔎歙蠂韘騇懾攝灄麝欇"]),
  ("Shen", [
    "申屾扟伸身侁呻妽籶绅罙诜姺柛氠珅穼籸娠峷甡眒砷莘堔敒深紳兟棽葠裑訷蓡詵甧蔘燊薓駪鲹曑鯓鵢",
    "鯵鰺神榊鰰邥弞沈审矤哂矧宷谂谉婶渖訠審諗頣魫曋瞫嬸瀋覾讅肾侺昚甚胂涁眘渗祳脤腎愼慎椹瘆罧",
    "蜃蜄滲鋠瘮"]),
  ("Sheng", [
    "升生阩呏声斘昇枡泩狌苼栍殅牲珄竔陞曻陹笙湦焺甥鉎聲鍟鼪鵿绳縄憴繩譝省眚偗渻圣胜晠剰盛剩勝",
    "貹嵊琞聖墭榺蕂橳賸"]),
  ("Shi", [
    "什尸失师呞虱诗邿鸤屍施浉狮師絁釶湤湿葹溮溼獅蒒蓍詩鉇鉈瑡酾鳲蝨鳾褷鲺濕鍦鯴鰤鶳襹十饣石辻",
    "乭时竍识实実旹飠姼峕拾炻祏蚀食埘時莳寔湜遈塒嵵溡蒔鉐實榯蝕鲥鮖鼫識鼭鰣史矢乨豕使始驶兘宩",
    "屎笶榁鉂駛士氏礻丗世仕市示卋式忕亊叓戺事侍势呩柹视试饰冟室恀恃拭是昰枾柿眂贳适栻烒眎眡舐",
    "轼逝铈視釈媞崼弑徥揓谥貰释勢嗜弒煶睗筮觢試軾鈰鉃飾舓誓適鉽奭銴餙餝噬嬕澨諟諡遾螫謚簭襫釋",
    "鰘佦匙篒籂"]),
  ("Shou", ["収收手守垨首艏寿受狩兽售授涭绶痩膄壽夀瘦綬獣獸鏉"]),
  ("Shu", [
    "扌书殳尗抒纾叔杸枢陎姝倏倐書殊紓掓梳淑焂菽軗鄃疎疏舒摅毹毺綀输瑹跾踈樞蔬輸橾鮛儵攄瀭鵨秫",
    "婌孰赎塾熟璹贖鼡属暑暏黍署蜀鼠潻薥薯曙癙藷襡糬襩屬蠴鱪鱰鸀朮术戍束沭述侸咰怷树竖荗恕捒庶",
    "庻絉蒁術隃尌裋数竪腧鉥墅漱潄數澍豎樹濖錰鏣鶐虪"]),
  ("Shua", ["刷唰耍誜"]),
  ("Shuai", ["衰摔甩帅帥蟀卛"]),
  ("Shuan", ["闩拴閂栓涮腨"]),
  ("Shuang", ["双霜雙孀骦孇騻欆礵鷞鹴艭驦鸘爽塽慡漺樉縔鏯灀"]),
  ("Shui", ["谁脽誰水氺帨涗涚祱稅税裞睡氵閖"]),
  ("Shun", ["吮顺舜順蕣橓瞚瞬鬊"]),
  ("Shuo", ["说哾說説妁烁朔铄欶硕矟搠蒴槊獡碩箾鎙爍鑠"]),
  ("Si", [
    "厶纟丝司糹私咝泀俬思虒恖鸶媤斯絲缌蛳楒禗鉰飔凘厮榹禠罳蜤銯锶嘶噝廝撕澌磃緦蕬鋖燍螄蟖蟴颸",
    "騦鐁鷥鼶籭死巳亖四似寺汜佀兕姒泤祀価孠杫泗饲驷娰柶牭洍涘肂飤笥耜釲竢覗嗣肆貄鈶鈻飼禩駟蕼",
    "儩瀃"]),
  ("Song", ["忪松枀枩娀柗倯凇崧庺梥淞菘嵩硹蜙憽濍檧鍶鬆怂悚耸竦傱愯楤嵷慫聳駷讼宋诵送颂訟頌誦鎹餸"]),
  ("Sou", ["凁捜鄋嗖廀廋搜溲獀蒐蓃馊摉飕摗锼艘螋醙鎪餿颼颾騪叜叟傁嗾瞍擞薮擻藪櫢籔嗽瘶"]),
  ("Su", [
    "苏甦酥稣窣穌鯂蘇蘓櫯囌俗玊夙诉泝肃洬涑珟素莤速宿梀殐粛骕傃粟訴谡嗉塐塑嫊愫溯溸肅遡鹔僳愬",
    "榡膆蔌觫趚遬憟樎樕潥碿鋉餗潚縤橚璛簌藗謖蹜驌鱐鷫"]),
  ("Suan", ["狻痠酸匴祘笇筭蒜算"]),
  ("Sui", [
    "夊芕虽倠哸浽荽荾眭滖睢綏熣濉鞖雖绥隋随遀隨瓍瀡膸髄髓亗岁砕祟谇埣嵗遂歲歳煫睟碎隧嬘澻穂誶",
    "賥檖燧璲禭穗穟繀襚邃旞繐繸譢鐆鐩韢"]),
  ("Sun", ["孙狲荪孫飧搎猻蓀飱槂蕵薞损笋隼筍損榫箰簨鎨鶽"]),
  ("Suo", ["唆娑莏傞桫梭睃嗍嗦羧蓑摍缩趖簑簔縮髿鮻所乺唢索琐琑惢锁嗩暛溑溹瑣褨璅鎈鎍鎖鎻鏁逤蜶"]),
  ("Ta", [
    "他它她牠祂趿铊塌榙溻褟嚃闧蹹塔墖獭鳎獺鰨拓挞狧闼崉涾搨遝阘榻毾禢撻澾誻踏橽錔濌蹋鞜鮙闒鞳",
    "嚺闥譶躢侤咜遢"]),
  ("Tai", ["囼孡胎台旲邰坮抬苔枱炱炲菭跆鲐箈臺颱駘儓鮐嬯擡薹檯籉太冭夳忲汰态肽钛泰舦酞鈦溙態燤粏"]),
  ("Tan", [
    "坍贪怹痑舑貪摊滩瘫擹攤灘癱坛昙倓谈郯婒惔覃榃痰锬谭墰墵憛潭談醈壇曇燂錟餤檀磹顃罈藫壜譚貚",
    "醰譠罎忐坦袒钽菼毯鉭嗿憳憻暺醓璮襢叹炭埮探傝湠僋嘆碳舕歎賧"]),
  ("Tang", [
    "汤铴湯嘡耥劏羰蝪薚镗蹚鏜鐋鞺鼞坣唐堂傏啺棠鄌塘搪溏蓎隚榶漟煻瑭禟膅樘磄糃膛橖篖糖螗踼糛螳",
    "赯醣餳鎕餹闛饄鶶伖帑倘偒埫淌傥躺镋鎲儻戃曭爣矘钂烫摥趟燙"]),
  ("Tao", [
    "夲弢涛绦掏焘絛詜嫍幍慆搯滔槄瑫韬飸縚縧濤謟轁鞱韜饕匋迯咷洮逃桃陶啕梼淘绹萄祹裪綯蜪鞀醄鞉",
    "鋾錭駣檮饀騊鼗讨討套"]),
  ("Te", ["忑忒特貣铽慝鋱蟘"]),
  ("Teng", ["熥膯鼟疼痋幐腾誊漛滕邆縢螣駦謄儯藤騰籐鰧籘虅驣霯"]),
  ("Ti", [
    "剔梯锑踢擿鷈鷉苐厗荑绨偍啼崹惿提稊缇罤遆鹈嗁瑅綈碮褆徲漽緹蕛蝭銻题趧蹄醍謕蹏鍗鳀鴺題鮷鵜",
    "騠鯷鶗鶙禵鷤体挮躰骵鮧軆體戻屉剃洟朑倜悌涕逖屜悐惕掦笹逷惖揥替楴裼褅歒殢髰薙嚏鬀嚔瓋籊趯"]),
  ("Tian", [
    "天兲婖添酟靔黇靝田屇沺恬畋畑盷胋畠甛甜菾湉塡填搷鈿阗碵緂磌窴鴫璳闐鷆鷏忝殄倎唺悿淟晪琠腆",
    "觍痶睓舔餂覥賟錪鍩靦掭瑱睼舚"]),
  ("Tiao", [
    "旫佻庣恌挑祧聎芀条岧岹迢祒條笤萔蓚蓨趒龆樤蜩鋚鞗髫鲦鯈鎥齠鰷宨晀朓脁窕誂斢窱嬥眺粜絩覜跳",
    "糶螩"]),
  ("Tie", ["帖怗贴萜聑貼铁蛈僣銕鴩鐡鐵驖呫飻餮"]),
  ("Ting", [
    "厅庁汀艼听耓厛烃桯烴綎鞓聴聼廰聽廳邒廷亭庭莛停婷嵉渟筳葶蜓楟榳閮霆聤蝏諪鼮圢町甼侹娗挺涏",
    "梃烶珽脡铤艇颋誔頲"]),
  ("Tong", [
    "囲炵通痌嗵蓪樋仝同佟彤峂庝哃峝狪茼晍桐浵烔砼蚒眮秱铜童粡筩詷赨酮鉖僮勭鉵銅餇鲖潼獞曈朣橦",
    "氃燑犝膧瞳穜鮦统捅桶筒統綂恸痛衕慟憅"]),
  ("Tou", ["偷偸婾媮鋀鍮亠头投骰緰頭妵紏敨飳黈蘣透綉"]),
  ("Tu", [
    "凸宊禿秃怢突唋涋捸堗湥痜葖嶀鋵鵚鼵図图凃峹庩徒悇捈涂荼途屠梌揬稌圕塗嵞瘏筡腯蒤鈯圖圗廜潳",
    "跿酴馟鍎駼鵌鶟鷋鷵土圡吐钍釷兎迌兔莵堍菟鵵汢"]),
  ("Tuan", ["湍猯煓貒团団抟剸團慱摶漙槫篿檲鏄糰鷒鷻疃彖湪褖"]),
  ("Tui", ["推蓷藬弚颓隤尵頹頺頽魋穨蘈蹪俀腿僓蹆骽侻退娧煺蛻蜕褪駾"]),
  ("Tun", ["吞呑旽涒啍朜焞噋暾黗屯坉忳芚饨豘豚軘飩鲀魨霕臀臋氽畽"]),
  ("Tuo", [
    "乇仛讬圫托扡汑饦杔侂咃拕拖沰挩捝莌袥託涶脫脱飥魠驝驮佗陀陁坨岮沱沲狏迱驼柁砣砤袉鸵紽堶跎",
    "酡碢馱槖駄駝駞橐鮀鴕鼧騨鼍驒鼉彵妥庹媠椭楕嫷橢鵎鬌鰖柝毤唾萚跅毻箨蘀籜"]),
  ("Wa", ["屲穵劸挖洼娲畖窊媧嗗蛙搲溛漥窪鼃攨娃瓦佤邷咓砙袜聉嗢腽膃襪韈韤瓲哇"]),
  ("Wai", ["歪喎竵崴外夞顡"]),
  ("Wan", [
    "弯剜婠帵塆湾蜿潫豌彎壪灣丸刓汍纨芄完岏抏玩笂紈捖顽烷琓貦頑翫宛倇唍挽盌埦婉惋晚晥梚绾脘菀",
    "萖晩晼椀琬皖畹睕碗綩綰輓踠鋔万卍卐忨杤捥脕萬腕輐澫鋄瞣薍錽蟃贃鎫贎"]),
  ("Wang", ["尢尣尪尫汪尩亡亾兦王仼彺莣蚟罒网往徃枉罔徍惘菵暀棢蛧辋網蝄誷輞瀇魍妄忘迋旺盳望朢"]),
  ("Wei", [
    "危威烓偎逶隇隈喴媙愄揋揻渨葨葳微椳楲溦煨詴蜲縅蝛覣嶶薇燰鳂巍鰃鰄囗韦圩围帏沩违闱峗峞洈韋",
    "桅涠唯帷惟维喡圍媁嵬幃湋溈琟違潍維蓶鄬潙潿磑醀濰鍏闈鮠癓覹犩霺欈厃伟伪尾纬芛苇委炜玮洧娓",
    "屗捤浘荱诿偉偽崣梶痏萎隗骩嵔廆徫愇猥葦蒍骪骫暐椲煒瑋痿腲艉韪僞撱磈鲔寪緯蔿諉踓韑頠薳儰濻",
    "鍡鮪壝瀢韙颹韡亹斖卫为未位味苿為畏胃叞軎尉硙菋谓喂媦渭爲猬煟墛碨蔚蜼慰熭犚緭蝟衛懀璏罻衞",
    "謂餧鮇螱褽餵魏藯轊鏏霨鳚蘶饖讆躗讏躛煀"]),
  ("Wen", [
    "昷塭温榅殟溫瑥辒榲瘟蕰豱輼轀鎾饂鳁鞰鰛鰮匁文彣纹芠炆玟闻紋蚉蚊珳阌雯瘒聞馼駇魰鳼鴍螡閺閿",
    "蟁闅鼤闦刎吻忟抆呡肳紊桽脗稳穏穩问妏汶莬問渂揾搵顐璺"]),
  ("Weng", ["呚翁嗡滃鹟螉鎓鶲勜奣塕嵡蓊暡瞈聬攚瓮蕹甕罋齆"]),
  ("Wo", ["挝倭涡莴唩涹渦猧萵窝窩蜗撾蝸踒我婐捰仴沃肟卧枂臥偓捾涴媉幄握渥焥硪楃腛斡瞃擭濣瓁臒雘龌齷"]),
  ("Wu", [
    "乌圬弙汙汚污邬呜巫杇屋洿诬钨烏剭窏鄔嗚誈歍誣箼螐鴮鎢鰞无毋吳吴吾呉芜郚唔娪峿洖浯茣莁梧珸",
    "祦無铻鹀禑蜈蕪璑蟱鯃鵐譕鼯鷡乄五午仵伍妩庑忤怃迕旿武玝侮俉倵捂啎娬牾珷摀碔鹉熓瑦舞嫵廡憮",
    "潕儛橆甒鵡躌兀勿务戊阢伆屼扤坞岉杌芴忢物矹卼敄误務悞悟悮粅逜晤焐婺嵍痦隖靰骛塢奦嵨溩雺雾",
    "寤熃誤鹜鋈窹霚鼿霧齀蘁騖鶩錻"]),
  ("Xi", [
    "夕兮邜吸忚扱汐西覀希扸卥昔析穸肸肹俙徆怸恓郗饻唏奚屖息悕氥浠牺狶莃唽悉惜晞桸欷淅渓烯焁焈",
    "琋硒菥赥釸傒惁晰晳焟焬犀睎稀粞翕翖舾鄎厀嵠徯溪皙蒠锡僖榽煕熄熈熙緆蜥豨餏嘻噏嬆嬉嶲潝瘜磎",
    "膝凞暿樨橀熹熺熻窸縘羲螅螇錫燨犠瞦礂蟋谿豀豯貕糦繥釐雟鯑鵗觹譆醯鏭隵巇曦爔犧酅觽鼷蠵鸂觿",
    "鑴习郋席習袭觋喺媳椺蒵蓆嶍漝覡趘槢薂隰檄謵鎴霫鳛飁騱騽襲鰼驨枲洗玺徙铣喜葈葸鈢鉨鉩屣漇蓰",
    "憘憙橲歖禧諰壐縰謑蟢蹝璽鱚囍矖躧匸卌戏屃系饩呬忥怬矽细係咥恄盻郤欯绤細釳阋椞舃舄趇隙慀滊",
    "禊綌赩隟墍熂犔稧潟澙蕮覤戱黖戲磶虩餼鬩繫嚱闟霼屭衋"]),
  ("Xia", [
    "呷虲疨虾谺傄閕煆颬瞎蝦鰕匣侠狎俠叚峡柙炠狭陜峽烚狹珨祫硖翈舺陿硤遐敮暇瑕筪舝碬辖磍縀蕸縖",
    "赮魻轄鍜霞鎋黠騢鶷閜丅下乤吓圷疜夏梺睱嚇懗罅鎼夓鏬"]),
  ("Xian", [
    "仙仚屳先奾纤佡忺氙杴祆秈苮枮籼珗莶掀铦跹酰锨僊僲嘕銛鲜暹韯嬐憸薟鍁繊褼韱鮮蹮馦孅廯攕纎鶱",
    "襳躚纖鱻伭闲妶弦贤咸唌挦涎胘娴娹婱絃舷蚿衔啣湺痫蛝閑閒鹇嫌衘甉銜嫺嫻憪撏澖稴誸賢諴輱醎癇",
    "癎瞯藖礥鹹麙贒鷳鷴鷼冼狝显险崄毨烍猃蚬険赻筅尟尠搟禒跣銑箲險嶮獫獮藓鍌燹顕幰攇櫶蘚譣玁韅",
    "顯灦县咞岘苋现线臽限姭宪県陥哯垷娊娨峴涀莧陷晛現馅睍絤缐羡献粯羨腺蜆僩僴綫誢撊線鋧憲橌縣",
    "錎餡壏豏麲瀗臔獻糮霰鼸鑦"]),
  ("Xiang", [
    "乡芗相香郷厢啌鄉鄊廂湘缃葙鄕楿稥薌箱緗膷襄忀骧麘欀瓖镶鱜鑲驤瓨佭详庠栙祥絴翔詳跭享亯响蚃",
    "饷晑飨想銄餉鲞曏蠁鮝鯗響饗饟鱶向姠巷项珦象塂缿萫衖項像勨嶑銗橡襐嚮蟓鐌鱌"]),
  ("Xiao", [
    "灱灲呺枭侾哓枵骁宯宵庨消绡虓逍鸮婋梟焇猇萧痚痟硝硣窙翛萷销揱綃嘐歊潇箫踃嘵憢獢銷霄彇膮蕭",
    "魈鴞穘簘藃蟂蟏鴵嚣瀟簫蟰髇櫹嚻囂髐鷍蠨驍毊虈洨郩崤淆訤殽筊誵小晓暁筱筿皛曉篠謏皢孝肖効咲",
    "俲哮效校涍笑啸傚敩詨嘋嘨誟嘯歗熽斅斆恷"]),
  ("Xie", [
    "些揳猲楔歇蝎蠍劦协旪邪協胁垥奊峫恊拹挟挾脅脇脋衺偕斜谐翓嗋愶携瑎綊熁膎勰撷擕緳缬蝢鞋頡諧",
    "燲擷鞵襭攜纈讗龤写冩寫藛伳灺泄泻祄绁缷卸洩炧炨卨娎屑屓偞偰徢械烲焎禼紲亵媟屟渫絏絬谢僁塮",
    "榍榭褉噧屧暬緤嶰廨懈澥獬糏薢薤邂韰燮褻謝夑瀉鞢瀣爕繲蟹蠏齘齛齥齂躞"]),
  ("Xin", [
    "心邤妡忻芯辛昕杺欣炘盺俽惞訢鈊锌新歆廞鋅噺嬜薪馨鑫馫枔襑鐔伈阠伩囟孞信軐脪衅訫焮馸顖舋釁",
    "忄"]),
  ("Xing", [
    "星垶骍惺猩煋瑆腥蛵觪箵篂謃鮏曐觲騂皨鯹刑行邢饧形陉侀郉型洐荥钘陘娙硎铏鈃滎鉶銒鋞睲醒擤兴",
    "杏姓幸性荇倖莕婞悻涬緈興嬹臖哘裄"]),
  ("Xiong", ["凶匂兄兇匈芎讻忷汹哅恟洶胷胸訩詾賯雄熊焽诇焸詗夐敻"]),
  ("Xiu", [
    "休俢修咻庥烋烌羞脩脙鸺臹貅馐樇銝髤髹鎀鮴鵂鏅饈鱃飍苬朽滫潃綇糔秀岫峀珛绣袖琇锈嗅溴璓褎褏",
    "銹螑繍繡鏥鏽齅"]),
  ("Xu", [
    "吁戌旴疞盱欨胥须晇訏顼虗虚谞媭幁揟欻湑虛裇須楈窢頊嘘墟需魆噓嬃歔縃蕦蝑諝譃繻魖驉鑐鬚俆徐",
    "蒣许呴姁诩冔栩珝偦許暊詡稰鄦糈醑盨旭伵序汿芧侐卹怴沀叙恤昫洫垿欰殈烅珬勖敍敘勗烼绪续酗喣",
    "壻婿朂溆絮聓訹慉煦続蓄賉槒漵潊盢瞁緒聟銊獝稸緖魣藇瞲藚續鱮蓿"]),
  ("Xuan", [
    "吅轩昍宣弲軒梋谖喧塇媗愃愋揎萱萲暄煊瑄蓒睻儇禤箮縇翧蝖鋗懁蕿諠諼鍹駽矎翾藼蘐蠉譞鰚玄玹痃",
    "悬旋琁蜁嫙漩暶璇檈璿懸咺选晅烜選顈癣癬怰泫昡炫绚眩袨铉琄眴衒渲絢楥楦鉉碹蔙镟鞙颴縼繏鏇讂",
    "贙"]),
  ("Xue", ["削疶蒆靴薛辥辪鞾穴斈乴学岤峃茓泶袕鸴踅噱壆學嶨澩燢觷雤鷽雪膤樰艝轌鳕鱈血吷坹狘桖谑趐謔瀥"]),
  ("Xun", [
    "坃勋埙焄勛塤熏蔒勲勳薫駨嚑壎獯薰曛燻臐矄蘍壦爋纁醺廵寻旬巡杊畃询峋恂洵浔紃荀荨栒桪毥珣偱",
    "尋循揗詢馴鄩鲟噚潯攳樳燅燖璕蟳鱏鱘灥卂训讯伨汛迅驯侚巺徇狥迿逊殉訊訓訙奞巽殾稄遜愻賐噀潠",
    "蕈顨鑂"]),
  ("Ya", [
    "丫圧压庘押枒垭鸦桠鸭埡孲铔椏鴉錏鴨壓鵶鐚牙伢厑岈芽厓玡琊笌蚜堐崕崖涯猚瑘睚衙漄齖厊庌哑唖",
    "啞痖雅瘂蕥劜圠轧亚襾讶亜犽迓亞軋娅挜砑俹氩婭掗訝揠氬猰聐圔稏窫齾乛呀"]),
  ("Yan", [
    "恹剦烟珚胭偣崦淊淹焉焑菸阉阏湮腌煙硽鄢嫣漹嶖樮醃閹嬮懨篶懕臙黫讠延闫严妍芫言訁岩昖沿炎郔",
    "姸娫狿研莚娮盐啱琂硏訮閆阎嵒嵓筵綖蜒塩揅楌詽碞蔅颜厳虤閻檐顏顔嚴壛巌簷櫩黬壧孍巗巖欕礹鹽",
    "麣夵抁沇乵兖奄俨兗匽弇衍偃厣掩眼萒郾酓嵃愝扊揜棪渰渷琰遃隒椼罨裺演褗戭蝘魇噞躽縯檿黡厴甗",
    "鰋鶠黤齞龑儼黭顩鼴巘巚曮魘鼹齴黶厌妟觃牪咽姲彥彦砚唁宴晏烻艳覎验偐掞焔谚隁喭堰敥焰焱猒硯",
    "葕雁傿椻溎滟鳫厭墕暥熖酽嬊谳餍鴈燄燕諺赝鬳曕鴳酀騐験嚥嬿艶贋軅曣爓醶騴鷃灔贗觾讌醼饜驗鷰",
    "艷灎釅驠灧讞豓豔灩"]),
  ("Yang", [
    "央咉姎抰泱殃胦眏秧鸯鉠雵鞅鴦扬羊阦阳旸杨炀玚飏佯劷氜疡钖垟徉昜洋羏烊珜眻陽崵崸揚蛘敭暘楊",
    "煬禓瘍諹輰鍚鴹颺鐊鰑霷鸉仰佒坱岟养柍炴氧痒紻傟楧軮慃氱蝆養駚懩攁癢礢怏恙样羕詇様漾樣瀁羪"]),
  ("Yao", [
    "幺夭吆妖枖殀祅訞喓葽楆腰鴁邀爻尧尭肴垚姚峣轺倄烑珧窑傜堯揺谣軺嗂媱徭愮搖摇滧猺遙遥摿暚榣",
    "瑤瑶銚飖餆嶢嶤磘窯窰餚繇謠謡鎐鳐颻蘨邎顤鰩仸宎岆抭杳狕苭咬柼眑窅窈舀偠婹溔蓔榚鴢闄騕齩鷕",
    "穾药要钥袎窔崾筄葯詏熎覞靿獟鹞薬鼼曜燿艞藥矅耀纅鷂讑鑰"]),
  ("Ye", [
    "倻掖椰暍噎潱蠮爷耶捓揶铘爺釾鋣鎁擨也吔冶埜野嘢漜壄业叶曳页曵邺夜抴亱枼洂頁捙晔枽烨啘液谒",
    "殗腋葉鄓墷業馌僷曄曅歋燁璍擛皣瞱鄴靥嶪嶫澲謁餣嚈擫曗瞸鍱擪爗礏鎑饁鵺鐷靨驜鸈亪"]),
  ("Yi", [
    "一乊弌辷衤伊衣医吚壱依祎咿洢悘渏猗畩郼铱壹揖蛜禕嫛漪稦銥嬄噫夁瑿鹥繄檹毉醫黟譩鷖黳乁仪匜",
    "圯夷迆冝宐沂诒侇宜怡沶狋衪迤饴咦姨峓恞拸柂珆瓵贻迻宧巸弬扅栘桋眙胰袘訑貤痍移耛萓椬羠蛦詑",
    "詒貽遗媐暆椸誃跠頉颐飴疑儀熪箷遺嶬彛彜螔頤頥寲嶷簃顊彝彞謻鏔籎觺讉鸃乙已以钇佁攺矣苡苢庡",
    "舣蚁釔倚扆笖逘酏偯崺旑椅鈘鉯鳦裿旖踦輢敼螘檥礒艤蟻顗轙齮乂义亿弋刈忆艺匇肊议亦伇屹异芅伿",
    "佚劮呓坄役抑杙耴苅译邑佾呭呹峄怈怿易枍欥泆炈秇绎诣驿俋奕帟帠弈枻浂玴疫羿衵轶唈垼悒挹栧栺",
    "欭浥浳益袣谊陭勚埶埸悥掜殹異硛羛翊翌萟訲訳豙豛逸釴隿幆敡晹棭殔湙焲蛡詍跇軼鈠骮亄兿意溢獈",
    "痬睪竩缢義肄裔裛詣勩嫕廙榏潩瘗膉蓺蜴靾駅億撎槸毅熠熤熼瘞誼镒鹝鹢黓劓圛墿嬑嬟嶧憶懌曀殪澺",
    "燚瘱瞖穓縊艗薏螠褹寱斁曎檍歝燡燱翳翼臆貖賹鮨癔藙藝贀鎰镱繶繹豷霬鯣鶂鶃鶍瀷蘙譯議醳醷饐囈",
    "鐿鷁鷊懿襼驛鷧虉鷾讛齸"]),
  ("Yin", [
    "囙因阥阴侌垔姻洇茵荫音骃栶殷氤陰凐秵裀铟陻隂喑堙婣愔筃絪歅溵禋蒑蔭慇瘖銦緸鞇諲霒駰噾闉霠",
    "韾冘乑吟犾苂斦烎垠泿圁峾狺珢荶訔訚婬寅崟崯淫硍訡银鈝龂滛碒鄞夤蔩銀龈噖殥璌誾嚚檭蟫霪齗鷣",
    "乚廴尹引吲饮蚓赺隐淾鈏飲隠靷飮朄輑磤趛檃瘾隱嶾濥濦螾蘟櫽癮讔印茚洕胤垽堷湚猌廕窨酳慭癊憖",
    "憗鮣懚檼粌"]),
  ("Ying", [
    "应応英偀桜珱莺啨婴媖愥渶绬朠煐瑛嫈碤锳嘤撄甇緓缨罂蝧賏樱璎罃褮鍈霙鴬鹦嬰應膺韺甖鹰鶑鶧嚶",
    "孆孾攖罌蘡譍櫻瓔礯譻鶯鑍纓蠳鷪軈鷹鸎鸚盁迎茔盈荧莹営萤营萦蛍溋溁萾僌塋楹滢蓥潆熒蝇瑩蝿嬴",
    "營縈螢濙濚濴藀覮謍赢瀅鎣攍瀛瀠瀯蠅櫿瀴贏灐籝灜籯矨郢浧梬颍颕颖摬影潁瘿穎頴巊廮鐛癭映暎硬",
    "媵膡噟鞕鱦"]),
  ("Yo", ["哟唷喲"]),
  ("Yong", [
    "佣拥痈邕庸傭嗈鄘雍墉嫞慵滽槦牅噰壅擁澭郺镛臃癕雝鏞鳙廱灉饔鱅鷛癰喁揘颙顒鰫永甬咏怺泳俑勇",
    "勈栐埇悀柡涌恿傛惥愑湧硧詠塎嵱彮愹蛹慂踊禜鲬踴鯒用苚砽醟"]),
  ("You", [
    "优忧攸呦怮泑幽逌悠麀滺憂優鄾嚘瀀櫌纋耰尤由沋犹邮油肬怣斿疣峳浟秞莜莸郵铀偤蚰訧逰游猶遊鱿",
    "楢猷鈾鲉輏駀蕕蝣魷輶鮋櫾友有丣卣苃酉羑庮栯羐莠梄聈脜铕湵禉蜏銪槱牖牗黝懮又右幼佑侑孧狖糿",
    "哊囿姷宥峟柚牰祐诱迶唀蚴亴貁釉酭誘鼬蒏込扜纡迂迃穻陓"]),
  ("Yu", [
    "紆虶唹淤盓瘀箊亐于邘伃余妤扵杅欤玗玙於盂臾衧鱼乻俞兪禺竽舁茰娛娯娱桙狳谀酑馀渔萸隅雩魚堣",
    "堬崳嵎嵛愉揄楰渝湡畭硢腴萮逾骬愚旕楡榆歈牏瑜艅虞觎漁睮窬舆褕歶羭蕍蝓諛雓餘嬩澞覦踰歟璵螸",
    "輿鍝謣髃鮽旟籅騟鯲蘛鰅鷠鸆与予伛宇屿羽雨俁俣挧禹语圄祤偊匬圉庾敔鄅斞萭傴寙楀瑀瘐與語窳鋙",
    "頨龉噳嶼懙貐斔麌蘌齬肀玉驭聿芋芌妪忬饫育郁昱狱秗茟俼峪彧浴砡钰预喐域堉悆惐欲淢淯袬谕逳阈",
    "喅喩喻媀寓庽御棛棜棫焴琙矞硲裕遇飫馭鹆愈滪煜稢罭艈蒮蓣誉鈺預嫗嶎戫毓獄瘉緎蜟蜮輍銉噊慾潏",
    "稶蓹豫遹鋊鳿澦燏燠蕷諭錥閾鴥鴧鴪儥礇禦魊鹬癒礖礜穥篽繘醧鵒櫲饇譽轝鐭霱欎驈鬻籞鱊鷸鸒欝龥",
    "軉鬰鬱灪籲爩澚"]),
  ("Yuan", [
    "囦鸢剈冤悁眢鸳寃渁渆渊渕惌淵葾棩蒬蜎裷鹓箢鳶蜵駌鴛嬽鵷灁鼘鼝元円贠邧员园妧沅杬垣爰貟原員",
    "圆笎蚖袁厡酛圎援湲猨缘茒鈨鼋園圓塬媴嫄源溒猿獂蒝榞榬辕緣縁蝝蝯魭橼羱薗螈謜轅黿鎱櫞邍騵鶢",
    "鶰厵远盶逺遠鋺夗肙妴苑怨院垸衏傆媛掾瑗禐愿裫褑褤噮願"]),
  ("Yue", [
    "曰曱约約箹矱彟彠月戉刖妜岄抈礿岳玥恱悅悦蚎蚏軏钺阅捳跀跃粤越鈅粵鉞閱閲嬳樾篗嶽龠籆瀹蘥黦",
    "爚禴躍籥鸑籰鸙"]),
  ("Yun", [
    "晕蒀暈氲煴蒕氳奫蝹赟頵馧贇云勻匀伝囩妘沄纭芸昀畇眃秐郧涢紜耘耺鄖雲愪溳筠筼蒷熉澐蕓鋆橒篔",
    "縜允阭夽抎狁陨荺殒喗鈗隕殞褞馻磒賱霣齫齳孕运枟郓恽鄆酝傊惲愠缊運慍腪韫韵熅熨緷緼蕴縕薀醖",
    "醞餫藴韗韞蘊韻抣繧"]),
  ("Za", ["帀匝沞迊咂拶紥紮鉔魳臜臢杂沯砸偺喒韴雑磼襍雜囋囐雥咋"]),
  ("Zai", ["災灾甾哉栽烖菑渽溨睵賳宰崽再在扗洅载傤載酨儎縡"]),
  ("Zan", ["兂糌簪簮鐕鐟咱昝桚寁揝噆撍儧攅攒儹攢趱趲暂暫賛赞錾鄼濽蹔酂瓉贊鏨瓒酇灒讃瓚禶襸讚饡"]),
  ("Zang", ["匨牂羘赃賍臧蔵賘贓髒贜驵駔奘弉脏塟葬銺臓臟"]),
  ("Zao", ["傮遭糟蹧醩凿鑿早枣栆蚤棗澡璪薻繰藻灶皁皂唕唣造梍喿慥煰艁噪簉燥竃譟趮躁竈"]),
  ("Ze", [
    "则択沢择泎泽责迮則唶啧帻笮舴責溭矠嘖嫧幘箦蔶樍歵諎赜擇澤皟瞔簀礋襗謮賾蠌齚齰鸅夨仄庂汄昃",
    "昗捑崱"]),
  ("Zei", ["伬贼戝賊鲗鯽蠈鰂鱡"]),
  ("Zen", ["怎谮譖譛囎増鄫"]),
  ("Zeng", ["增憎缯橧熷璔矰磳罾繒譄鱛锃鋥甑赠贈"]),
  ("Zha", [
    "扎吒抯奓挓柤査哳偧喳揸渣楂摣皶樝觰皻譇齄齇札甴闸蚻铡煠牐閘劄箚耫鍘譗厏拃苲眨砟搩鲊鲝踷鮓",
    "鮺乍灹诈咤柞栅炸宱痄蚱溠詐搾榨霅醡"]),
  ("Zhai", ["夈粂捚斋斎摘榸齋宅檡窄鉙债砦債寨瘵"]),
  ("Zhan", [
    "枬沾毡旃栴粘蛅飦惉詀趈詹閚谵噡薝邅霑氈氊瞻鹯旜譫饘鳣驙魙鱣鸇讝斩飐展盏崭斬琖搌盞嶃嶄榐辗",
    "颭嫸醆橏輾黵占佔战栈桟站偡绽菚棧湛戦綻嶘輚戰虥虦覱轏譧蘸驏"]),
  ("Zhang", [
    "张張章傽鄣嫜彰慞漳獐粻蔁遧暲樟璋餦蟑騿鱆麞仉涨掌漲幥礃丈仗扙帐杖胀账粀帳涱脹痮障墇嶂幛賬",
    "瘬瘴瞕鏱"]),
  ("Zhao", ["佋钊妱巶招昭盄釗啁鉊駋窼鍣皽爪爫找沼瑵召兆诏枛垗炤狣赵笊肁旐棹詔照罩肇肈趙曌燳鮡櫂瞾羄"]),
  ("Zhe", [
    "罀蜇嗻嫬遮厇折歽矺砓籷虴哲埑粍袩啠悊晢晣辄喆蛰詟谪馲摺輒磔輙銸辙蟄嚞謫謺鮿轍讁讋者乽啫禇",
    "锗赭褶鍺襵这柘浙這淛蔗樜潪鹧蟅鷓着"]),
  ("Zhen", [
    "贞针侦帧浈珍珎胗貞帪栕桢眞真砧祯針偵桭酙寊葴遉嫃搸斟楨獉甄禎蒖蓁鉁靕榛殝瑧碪禛潧箴樼澵臻",
    "薽錱轃鍼籈鱵诊抮枕弫昣轸屒畛疹眕袗紾聄萙裖診軫缜稹駗縥鬒黰圳阵纼甽侲挋陣鸩振朕栚紖眹赈酖",
    "塦揕絼敶誫賑鋴镇震鴆鎭鎮"]),
  ("Zheng", [
    "凧争佂姃征怔爭埩峥挣炡狰烝眐钲崝崢掙猙睁聇铮媜揁筝徰蒸睜踭鉦徴箏錚篜鬇鯖癥氶抍糽拯掟晸愸",
    "撜整正证诤郑政症幀証塣諍鄭鴊證"]),
  ("Zhi", [
    "之支卮汁芝吱巵汥坧枝泜知织肢栀祗秓秖胑胝衼倁疷祬秪脂隻梔戠椥臸搘禔稙綕榰蜘馶鳷鴲織蘵鼅执",
    "侄妷直姪値值聀釞埴執淔职植殖犆禃絷跖嗭瓡鉄墌摭馽嬂慹漐踯樴膱縶職蟙蹠軄躑夂止只凪劧旨阯址",
    "坁帋扺汦沚纸芷怾抧祉咫恉指枳洔砋衹轵淽疻紙訨趾軹黹酯徵藢襧阤至芖志忮扻豸制厔垁帙帜治炙质",
    "迣郅俧峙庢庤挃柣栉洷祑陟娡徏挚晊桎狾秩致袟贽轾乿偫徝掷梽楖猘畤痔秲秷窒紩翐袠觗貭铚鸷傂崻",
    "彘智滞痣蛭軽骘寘廌搱滍稚筫置跱輊锧雉墆滯潌疐製覟誌銍幟憄摯熫稺膣觯質踬鋕擳旘瀄緻隲駤鴙儨",
    "劕懥擲櫛穉螲懫贄櫍瓆觶騭鯯礩豑騺驇躓鷙鑕豒徔"]),
  ("Zhong", [
    "中伀汷刣妐彸忠泈炂终柊盅衳钟舯衷終鈡幒蔠锺銿螤鴤螽鍾鼨蹱鐘籦肿种冢喠尰塚塜歱煄腫瘇種踵仲",
    "众妕狆祌茽衶重蚛偅眾堹媑筗衆諥"]),
  ("Zhou", [
    "州舟诌侜周洲炿诪烐珘辀郮婤徟掫淍矪週鸼喌粥赒輈銂賙輖霌駲盩謅鵃騆譸妯轴軸碡肘帚疛菷晭睭箒",
    "鯞纣伷呪咒宙绉冑咮昼紂胄荮皱酎晝粙葤詋甃詶僽皺駎噣縐骤籀籕籒驟"]),
  ("Zhu", [
    "朱劯侏诛邾洙茱株珠诸猪硃秼袾铢絑蛛誅跦槠潴蝫銖橥諸豬駯鮢鴸瀦櫫櫧鯺鼄蠩竹泏竺炢笁茿烛窋逐",
    "笜舳瘃築燭蠋躅鱁孎灟曯欘爥蠾钃丶主宔拄罜陼渚煮煑詝嘱濐麈瞩劚囑斸矚伫佇住助纻苎坾杼注贮迬",
    "驻壴柱柷殶炷祝疰眝砫祩竚莇紵紸羜著蛀嵀筑註貯跓軴铸筯鉒馵墸箸翥樦鋳駐篫霔麆簗鑄"]),
  ("Zhua", ["抓檛膼簻髽"]),
  ("Zhuai", ["跩拽"]),
  ("Zhuan", ["专叀専砖專鄟塼嫥瑼甎磗膞颛磚諯蟤顓鱄转孨転竱轉灷啭堟蒃瑑腞僎赚撰篆馔篹襈賺譔饌囀籑"]),
  ("Zhuang", ["妆庄妝庒荘娤桩莊梉湷粧装裝樁糚壮壯状狀壵焋撞戇"]),
  ("Zhui", ["隹追骓椎锥錐騅鵻沝坠桘笍娷缀惴甀缒畷硾膇墜綴赘縋諈醊錣餟礈贅轛鑆"]),
  ("Zhun", ["宒迍肫窀谆諄衠准埻凖準綧訰稕"]),
  ("Zhuo", [
    "拙炪倬捉桌棁涿棳槕穛穱蠿圴彴汋犳灼卓叕妰茁斫浊丵浞烵诼酌啄啅娺梲斱晫椓琸硺窡罬撯擆斲禚劅",
    "諁諑鋜濁篧擢斀斵濯櫡謶镯鐯鵫灂蠗鐲籗鷟籱窧"]),
  ("Zi", [
    "乲孜茊兹咨姕姿茲栥玆紎赀资崰淄秶缁谘赼嗞孳嵫椔湽滋粢葘辎鄑孶禌觜貲資趑锱稵緇鈭镃龇輜鼒澬",
    "諮趦輺錙髭鲻鍿鎡璾頿頾鯔鶅齍鰦蓻子仔吇姉姊杍矷秄胏呰秭籽耔虸笫梓釨啙紫滓訾訿榟橴字自芓茡",
    "荢倳剚恣牸渍眥眦胔胾漬"]),
  ("Zong", [
    "宗倧综骔堫嵏嵕惾棕猣腙葼椶朡嵸稯綜緃熧緵翪蝬踨踪磫鍐豵蹤騌鬃騣鬉鬷鯮鯼鑁总偬捴惣愡揔搃傯",
    "蓗摠総縂燪總鏓纵昮疭倊猔碂粽糉瘲縦錝縱糭潈"]),
  ("Zou", ["邹驺诹郰陬菆棷棸鄒箃緅諏鄹鲰鯫黀騶齱齺赱走鯐奏揍楱"]),
  ("Zu", ["租菹葅蒩卆足卒哫崒崪族傶箤踤踿镞鏃诅阻组俎爼珇祖唨組詛靻鎺"]),
  ("Zuan", ["钻躜鑽繤缵纂纉籫纘攥鑚"]),
  ("Zui", ["厜朘嗺樶蟕纗嶊嘴嶵噿璻栬絊酔最晬祽稡罪辠槜酻蕞醉檇鋷錊檌穝"]),
  ("Zun", ["尊墫壿嶟遵樽繜罇鶎鐏鳟鱒鷷僔噂撙譐捘銌"]),
  ("Zuo", ["嘬昨秨莋捽椊琢稓筰鈼左佐繓作坐阼岝岞怍侳祚胙唑座袏做葃葄酢蓙飵糳咗"])]

end BuildTool.Text
